import Mathlib.Algebra.GroupWithZero.Nat
import Mathlib.Algebra.Order.BigOperators.Group.List
import Mathlib.Algebra.Order.Group.Nat
import Mathlib.Data.List.Nodup
import Regnant.Lib.Traverse
import Regnant.Lib.YamlLines

namespace Yaml

variable {V : Type} {flow : Line → Option V} {a x : List Char} {l : Line} {ls : List Line}
  {c : Char}

theorem kind_first {entry : Line} (first : kind l = .first entry) : l = '-' :: ' ' :: entry := by
  unfold kind at first
  split_ifs at first
  split at first
  · split_ifs at first
    exact congrArg ('-' :: ' ' :: ·) (LineKind.first.inj first)
  · cases first
  · cases first

theorem kind_next {entry : Line} (next : kind l = .next entry) : l = ' ' :: ' ' :: entry := by
  unfold kind at next
  split_ifs at next
  split at next
  · split_ifs at next
  · exact congrArg (' ' :: ' ' :: ·) (LineKind.next.inj next)
  · cases next

structure Entry.Whole (e : Entry) : Prop where
  head : ∀ c ∈ e.head, isBreak c = false
  more : ∀ l ∈ e.more, ∀ c ∈ l, isBreak c = false

def size (entries : List Entry) : Nat :=
  (entries.map (·.more.length)).sum

theorem group_spec {more : List Line} {entries : List Entry} {mappings : List (List Entry)}
    (whole : ∀ l ∈ ls, ∀ c ∈ l, isBreak c = false)
    (read : group ls = some (more, entries, mappings)) :
    more.length + size entries + (mappings.map size).sum = ls.countP (kind · = .more) ∧
      (∀ l ∈ more, ∀ c ∈ l, isBreak c = false) ∧ (∀ e ∈ entries, e.Whole) ∧
      ∀ m ∈ mappings, ∀ e ∈ m, e.Whole := by
  induction ls generalizing more entries mappings with
  | nil =>
      simp only [group, Option.some.injEq, Prod.mk.injEq] at read
      obtain ⟨rfl, rfl, rfl⟩ := read
      simp [size]
  | cons l ls ih =>
      obtain ⟨here, rest⟩ := List.forall_mem_cons.mp whole
      simp only [group, Option.bind_eq_bind, Option.bind_eq_some_iff] at read
      obtain ⟨⟨more', entries', mappings'⟩, read', read⟩ := read
      obtain ⟨count, wholeMore, wholeEntries, wholeMappings⟩ := ih rest read'
      cases kinds : kind l with
      | foreign => simp [kinds] at read
      | more =>
          simp only [kinds, Option.some.injEq, Prod.mk.injEq] at read
          obtain ⟨rfl, rfl, rfl⟩ := read
          rw [List.countP_cons_of_pos (by simpa using kinds), ← count, List.length_cons]
          exact ⟨by omega, List.forall_mem_cons.mpr ⟨here, wholeMore⟩, wholeEntries, wholeMappings⟩
      | next head =>
          simp only [kinds, Option.some.injEq, Prod.mk.injEq] at read
          obtain ⟨rfl, rfl, rfl⟩ := read
          have new : Entry.Whole ⟨head, more'⟩ :=
            ⟨fun c member => here c (by rw [kind_next kinds]; simp [member]), wholeMore⟩
          rw [List.countP_cons_of_neg (by simp [kinds]), ← count]
          refine ⟨?_, by simp, List.forall_mem_cons.mpr ⟨new, wholeEntries⟩, wholeMappings⟩
          simp only [size, List.map_cons, List.sum_cons, List.length_nil]
          omega
      | first head =>
          simp only [kinds, Option.some.injEq, Prod.mk.injEq] at read
          obtain ⟨rfl, rfl, rfl⟩ := read
          have new : Entry.Whole ⟨head, more'⟩ :=
            ⟨fun c member => here c (by rw [kind_first kinds]; simp [member]), wholeMore⟩
          rw [List.countP_cons_of_neg (by simp [kinds]), ← count]
          refine ⟨?_, by simp, by simp, List.forall_mem_cons.mpr
            ⟨List.forall_mem_cons.mpr ⟨new, wholeEntries⟩, wholeMappings⟩⟩
          simp only [size, List.map_cons, List.sum_cons, List.length_nil, List.map_nil,
            List.sum_nil]
          omega

theorem splitKey_chars {key rest : Line} (split : splitKey l = some (key, rest)) :
    ∀ c ∈ rest, c ∈ l := by
  fun_induction splitKey l generalizing key with
  | case1 => cases split
  | case2 =>
      cases split
      simp
  | case3 => cases split
  | case4 c d cs =>
      obtain ⟨rfl, rfl⟩ := Prod.mk.inj (Option.some.inj split)
      intro c' member
      exact List.mem_cons_of_mem _ ((List.dropWhile_sublist _).subset member)
  | case5 c d cs _ ih =>
      obtain ⟨⟨key', rest'⟩, split', same⟩ := Option.map_eq_some_iff.mp split
      obtain ⟨rfl, rfl⟩ := Prod.mk.inj same
      exact fun c' member => List.mem_cons_of_mem _ (ih split' c' member)

def weight (x : Line) : Nat :=
  if x.count '\n' = 0 then 0 else x.count '\n' + 1

theorem entry_breaks {e : Entry} {key : Line} (whole : e.Whole)
    (read : readEntry flow e = some (key, .scalar x)) :
    (∀ c ∈ x, isBreak c = true → c = '\n') ∧ weight x ≤ e.more.length := by
  simp only [readEntry, Option.bind_eq_bind, Option.bind_eq_some_iff, Option.some.injEq,
    Prod.mk.injEq] at read
  obtain ⟨⟨key', rest⟩, split, key'', -, node, reads, -, rfl⟩ := read
  rw [readNode] at reads
  split_ifs at reads
  · obtain ⟨v, -, same⟩ := Option.map_eq_some_iff.mp reads
    cases same
  · obtain ⟨text, scalar, same⟩ := Option.map_eq_some_iff.mp reads
    obtain rfl := Node.scalar.inj same
    have wholeLines : ∀ l ∈ rest :: e.more, ∀ c ∈ l, isBreak c = false :=
      List.forall_mem_cons.mpr
        ⟨fun c member => whole.head c (splitKey_chars split c member), whole.more⟩
    obtain ⟨feeds, count⟩ := plain_breaks wholeLines scalar
    refine ⟨feeds, ?_⟩
    rw [weight]
    split_ifs <;> omega

theorem get_mem {m : Mapping V} {key : Line} {node : Node V} (found : m.get key = some node) :
    (key, node) ∈ m := by
  obtain ⟨before, after, same, -⟩ := List.lookup_eq_some_iff.mp found
  have member : (key, node) ∈ m.reverse := by simp [same]
  exact List.mem_reverse.mp member

theorem get_of_mem {m : Mapping V} (before : Mapping V) {key : Line} {node : Node V}
    (distinct : (m.map (·.1)).Nodup) (member : (key, node) ∈ m) :
    Mapping.get (before ++ m) key = some node := by
  have here : m.reverse.lookup key = some node := by
    obtain ⟨first, last, same⟩ := List.append_of_mem (List.mem_reverse.mpr member)
    refine List.lookup_eq_some_iff.mpr ⟨first, last, same, fun p mem => bne_iff_ne.mpr ?_⟩
    rw [← List.nodup_reverse, ← List.map_reverse, same, List.map_append,
      List.nodup_append] at distinct
    exact Ne.symm (distinct.2.2 p.1 (List.mem_map_of_mem mem) key (by simp))
  rw [Mapping.get, List.reverse_append, List.lookup_append, here, Option.some_or]

theorem size_mem {entries : List Entry} {e : Entry} (member : e ∈ entries) :
    e.more.length ≤ size entries :=
  List.le_sum_of_mem (List.mem_map_of_mem member)

theorem scalars_weight {mappings : List (List Entry)} {maps : List (Mapping V)} {key : Line}
    {xs : List Line} (whole : ∀ m ∈ mappings, ∀ e ∈ m, e.Whole)
    (read : mappings.mapM (·.mapM (readEntry flow)) = some maps)
    (scalars : maps.map (·.get key) = xs.map fun x => some (.scalar x)) :
    (∀ x ∈ xs, ∀ c ∈ x, isBreak c = true → c = '\n') ∧
      (xs.map weight).sum ≤ (mappings.map size).sum := by
  rw [List.mapM_eq_some_iff] at read
  induction read generalizing xs with
  | nil =>
      obtain rfl : xs = [] := by simpa using scalars.symm
      simp
  | cons here rest ih =>
      cases xs with
      | nil => simp at scalars
      | cons x xs =>
          rw [List.map_cons, List.map_cons, List.cons.injEq] at scalars
          obtain ⟨first, others⟩ := scalars
          obtain ⟨wholeHere, wholeRest⟩ := List.forall_mem_cons.mp whole
          obtain ⟨e, member, reads⟩ := List.mem_of_mapM here (get_mem first)
          obtain ⟨feeds, lines⟩ := entry_breaks (wholeHere e member) reads
          obtain ⟨feedsRest, linesRest⟩ := ih wholeRest others
          refine ⟨List.forall_mem_cons.mpr ⟨feeds, feedsRest⟩, ?_⟩
          rw [List.map_cons, List.map_cons, List.sum_cons, List.sum_cons]
          exact Nat.add_le_add (lines.trans (size_mem member)) linesRest

theorem parse_weight {maps : List (Mapping V)} {key : Line} {xs : List Line}
    (split : lines a = [] :: ls) (read : parse flow a = some maps)
    (scalars : maps.map (·.get key) = xs.map fun x => some (.scalar x)) :
    (∀ x ∈ xs, ∀ c ∈ x, isBreak c = true → c = '\n') ∧
      (xs.map weight).sum ≤ ls.countP (kind · = .more) := by
  have whole := lines_whole a
  rw [parse] at read
  rw [split] at read whole
  split_ifs at read
  obtain ⟨mappings, grouped, read⟩ := Option.bind_eq_some_iff.mp read
  simp only [items, group, Option.bind_eq_bind, Option.bind_eq_some_iff] at grouped
  obtain ⟨⟨more, entries, mappings'⟩, ⟨⟨more', entries', mappings''⟩, grouped, same⟩, rest⟩ :=
    grouped
  have blank : kind [] = .more := by decide
  simp only [blank, Option.some.injEq, Prod.mk.injEq] at same
  obtain ⟨rfl, rfl, rfl⟩ := same
  split_ifs at rest
  obtain rfl := Option.some.inj rest
  obtain ⟨count, -, -, wholeEntries⟩ := group_spec (List.forall_mem_cons.mp whole).2 grouped
  obtain ⟨feeds, weights⟩ := scalars_weight wholeEntries read scalars
  exact ⟨feeds, by omega⟩

/-! ## Entries of one line -/

def isWordChar (c : Char) : Bool :=
  c = '_' || (97 ≤ c.toNat && c.toNat ≤ 122)

structure IsWord (key : Line) : Prop where
  ne_nil : key ≠ []
  chars : ∀ c ∈ key, isWordChar c = true

def nameKey : Line := ['n', 'a', 'm', 'e']

theorem nameKey_isWord : IsWord nameKey :=
  ⟨by decide, by decide⟩

def entryLine (key x : Line) : Line := ' ' :: ' ' :: (key ++ ':' :: ' ' :: x)

theorem word_char (word : isWordChar c = true) :
    isWhite c = false ∧ isLegal c = true ∧ isBreak c = false ∧
      c ∉ ':' :: '#' :: '\x22' :: indicators := by
  have white : ∀ d ∈ [' ', '\t'], isWordChar d = false := by decide
  have mark : ∀ d ∈ ':' :: '#' :: '\x22' :: indicators, isWordChar d = false := by decide
  have range : c.toNat = 95 ∨ 97 ≤ c.toNat ∧ c.toNat ≤ 122 := by
    simp only [isWordChar, Bool.or_eq_true, decide_eq_true_eq, Bool.and_eq_true] at word
    exact word.imp_left fun same => by rw [same]; rfl
  refine ⟨?_, ?_, ?_, fun member => ?_⟩
  · by_contra blank
    simp only [isWhite, Bool.not_eq_false, Bool.or_eq_true, decide_eq_true_eq] at blank
    have other := white c (by simpa using blank)
    simp [word] at other
  · simp only [isLegal, Bool.or_eq_true, Bool.and_eq_true, decide_eq_true_eq]
    omega
  · simp only [isBreak, List.mem_cons, List.not_mem_nil, or_false, decide_eq_false_iff_not]
    omega
  · have other := mark c member
    simp [word] at other

theorem uncomment_no_hash (none : '#' ∉ l) (w : Bool) : uncomment w l = (l, false) := by
  induction l generalizing w with
  | nil => rfl
  | cons c l ih =>
      rw [List.mem_cons, not_or] at none
      rw [uncomment, ih none.2, if_neg (by simp [Ne.symm none.1])]

section Word
variable {key : Line}

theorem IsWord.no_mark (word : IsWord key) {d : Char}
    (mark : d ∈ ':' :: '#' :: '\x22' :: indicators) : d ∉ key :=
  fun member => (word_char (word.chars d member)).2.2.2 mark

theorem IsWord.line (word : IsWord key) :
    ∀ c ∈ entryLine key [], isLegal c = true ∧ isBreak c = false := by
  have fixed : ∀ c ∈ [' ', ':'], isLegal c = true ∧ isBreak c = false := by decide
  intro c member
  simp only [entryLine, List.mem_cons, List.mem_append, List.not_mem_nil, or_false] at member
  by_cases inKey : c ∈ key
  · obtain ⟨-, legal, whole, -⟩ := word_char (word.chars c inKey)
    exact ⟨legal, whole⟩
  · exact fixed c (by simpa [inKey, or_comm] using member)

theorem splitKey_append (plain : ':' ∉ key) (x : Line) :
    splitKey (key ++ ':' :: ' ' :: x) = some (key, x.dropWhile isWhite) := by
  induction key with
  | nil => simp [splitKey, isWhite]
  | cons c key ih =>
      rw [List.mem_cons, not_or] at plain
      have split := ih plain.2
      cases key with
      | nil => simp [splitKey, Ne.symm plain.1, isWhite]
      | cons d key =>
          rw [List.cons_append] at split
          simp [splitKey, Ne.symm plain.1, split]

theorem entryLine_append (key x : Line) : entryLine key x = entryLine key [] ++ x := by
  simp [entryLine]

theorem IsWord.kind (word : IsWord key) (x : Line) :
    kind (entryLine key x) = .next (key ++ ':' :: ' ' :: x) := by
  obtain ⟨c, key, rfl⟩ := List.exists_cons_of_ne_nil word.ne_nil
  obtain ⟨white, -, -, mark⟩ := word_char (word.chars c (by simp))
  have hash : c ≠ '#' := fun same => mark (by simp [same])
  have blank : c ≠ ' ' := by
    rintro rfl
    cases white
  have text : isSilent (entryLine (c :: key) x) = false := by
    simp [isSilent, entryLine, uncomment, isBlank, hash, white]
  have two : indent (entryLine (c :: key) x) = 2 := by
    simp [indent, entryLine, blank]
  unfold Yaml.kind
  rw [text, two, if_neg (by decide)]
  rfl

theorem IsWord.readKey (word : IsWord key) : readKey key = some key := by
  obtain ⟨c, rest, rfl⟩ := List.exists_cons_of_ne_nil word.ne_nil
  obtain ⟨white, -, -, mark⟩ := word_char (word.chars c (by simp))
  have quote : c ≠ '\x22' := fun same => mark (by simp [same])
  have start : plainStart (c :: rest) = true := by
    have indicator : c ∉ indicators := fun member => mark (by simp [member])
    cases rest <;> simp [plainStart, white, indicator]
  have whole : (c :: rest).rdropWhile isWhite = c :: rest := by
    rw [List.rdropWhile_eq_self_iff]
    intro ne
    rw [(word_char (word.chars _ (List.getLast_mem ne))).1]
    exact Bool.false_ne_true
  rw [Yaml.readKey, if_neg quote, start, uncomment_no_hash (word.no_mark (by simp)), whole]
  rfl

theorem IsWord.readEntry (word : IsWord key) (x : Line) :
    readEntry flow ⟨key ++ ':' :: ' ' :: x, []⟩ =
      (readNode flow (x.dropWhile isWhite) []).map ((key, ·)) := by
  simp only [Yaml.readEntry, splitKey_append (word.no_mark (by simp)), word.readKey,
    Option.bind_eq_bind, Option.bind_some]
  cases readNode flow (x.dropWhile isWhite) [] <;> rfl

end Word

/-! ## Blocks -/

structure LineReads (flow : Line → Option V) (opens : Line → LineKind) (l key : Line)
    (node : Option (Node V)) : Prop where
  chars : ∀ c ∈ l, isLegal c = true ∧ isBreak c = false
  kind : kind l = opens (l.drop 2)
  reads : readEntry flow ⟨l.drop 2, []⟩ = node.map (key, ·)
  unnamed : key ≠ nameKey

/-- The lines of one mapping: the line that begins it, a name that is written after its key with as
many blanks and breaks, and further lines. -/
structure Block (flow : Line → Option V) where
  first : Line
  type : Line × Node V
  opens : LineReads flow .first first type.1 (some type.2)
  name : Line
  written : Line
  whites : written.countP isWhite = name.countP isWhite
  breaks : written.countP isBreak = name.countP isBreak
  ends : written.getLast? ≠ some '\r'
  rest : List (Line × Line × Option (Node V))
  others : ∀ r ∈ rest, LineReads flow .next r.1 r.2.1 r.2.2

def Block.lines (b : Block flow) : List Line :=
  b.first :: entryLine nameKey b.written :: b.rest.map (·.1)

def Block.fields (b : Block flow) : Option (Mapping V) :=
  b.rest.mapM fun r => r.2.2.map (r.2.1, ·)

def Block.mapping (b : Block flow) : Mapping V :=
  b.type :: (nameKey, .scalar b.name) :: b.fields.getD []

structure Block.Clear (b : Block flow) : Prop where
  written : b.written = b.name
  plain : PlainSafe b.name
  fields : b.fields.isSome = true

theorem Block.fields_isSome (b : Block flow) :
    b.fields.isSome = true ↔ ∀ r ∈ b.rest, r.2.2.isSome = true := by
  rw [Option.isSome_iff_exists, Block.fields, List.mapM_some_iff_forall]
  simp only [Option.isSome_map]

theorem Block.fields_eq_some {b : Block flow} {fields : Mapping V} (read : b.fields = some fields) :
    fields.map (·.1) = b.rest.map (·.2.1) ∧
      ∀ r ∈ b.rest, ∃ node, r.2.2 = some node ∧ (r.2.1, node) ∈ fields := by
  rw [Block.fields, List.mapM_eq_some_iff] at read
  generalize b.rest = rest at read
  induction read with
  | nil => simp
  | cons here rest ih =>
      obtain ⟨node, found, rfl⟩ := Option.map_eq_some_iff.mp here
      refine ⟨by simp [ih.1], List.forall_mem_cons.mpr ⟨⟨node, found, .head _⟩, fun r member => ?_⟩⟩
      obtain ⟨node', found', among⟩ := ih.2 r member
      exact ⟨node', found', .tail _ among⟩

theorem Block.get_rest {b : Block flow} (distinct : (b.rest.map (·.2.1)).Nodup)
    (read : b.fields.isSome = true) {r : Line × Line × Option (Node V)} (member : r ∈ b.rest) :
    b.mapping.get r.2.1 = r.2.2 := by
  obtain ⟨fields, read⟩ := Option.isSome_iff_exists.mp read
  obtain ⟨keys, nodes⟩ := Block.fields_eq_some read
  obtain ⟨node, found, among⟩ := nodes r member
  rw [found, Block.mapping, read, Option.getD_some]
  exact get_of_mem [b.type, (nameKey, .scalar b.name)] (keys ▸ distinct) among

theorem Block.get_none {b : Block flow} {key : Line} (read : b.fields.isSome = true)
    (type : b.type.1 ≠ key) (name : nameKey ≠ key) (others : key ∉ b.rest.map (·.2.1)) :
    b.mapping.get key = none := by
  obtain ⟨fields, read⟩ := Option.isSome_iff_exists.mp read
  rw [← (Block.fields_eq_some read).1] at others
  rw [Mapping.get, List.lookup_eq_none_iff, Block.mapping, read, Option.getD_some]
  intro entry member
  refine bne_iff_ne.mpr fun same => ?_
  simp only [List.mem_reverse, List.mem_cons] at member
  rcases member with rfl | rfl | member
  · exact type same.symm
  · exact name same.symm
  · exact others (same ▸ List.mem_map_of_mem member)

def text (blocks : List (Block flow)) : List Char :=
  (blocks.flatMap Block.lines).flatMap ('\n' :: ·)

theorem lines_flatMap (last : ∀ l ∈ ls, l.getLast? ≠ some '\r') (ends : a.getLast? ≠ some '\r') :
    lines (a ++ ls.flatMap ('\n' :: ·)) = lines a ++ ls.flatMap lines := by
  induction ls generalizing a with
  | nil => simp
  | cons l ls ih =>
      obtain ⟨here, rest⟩ := List.forall_mem_cons.mp last
      rw [List.flatMap_cons, List.flatMap_cons, List.cons_append, lines_append ends, ih rest here]

theorem getLast?_whole (whole : ∀ c ∈ l, isBreak c = false) : l.getLast? ≠ some '\r' := by
  intro last
  have := whole '\r' (List.mem_of_getLast? last)
  simp [isBreak] at this

theorem Block.lines_last (b : Block flow) : ∀ l ∈ b.lines, l.getLast? ≠ some '\r' := by
  intro l member
  rw [Block.lines, List.mem_cons, List.mem_cons, List.mem_map] at member
  obtain rfl | rfl | ⟨r, member, rfl⟩ := member
  · exact getLast?_whole fun c mem => (b.opens.chars c mem).2
  · rw [entryLine_append, List.getLast?_append]
    cases last : b.written.getLast? with
    | none => simp [entryLine, nameKey]
    | some c => simpa [last] using b.ends
  · exact getLast?_whole fun c mem => ((b.others r member).chars c mem).2

theorem lines_text (blocks : List (Block flow)) :
    lines (text blocks) = [] :: blocks.flatMap fun b => b.lines.flatMap lines := by
  have last : ∀ l ∈ blocks.flatMap Block.lines, l.getLast? ≠ some '\r' := by
    intro l member
    obtain ⟨b, -, member⟩ := List.mem_flatMap.mp member
    exact b.lines_last l member
  have split := lines_flatMap (a := []) last (by simp)
  rw [List.nil_append] at split
  rw [text, split, List.flatMap_assoc, lines, List.singleton_append]

theorem plainStart_not_bracket (start : plainStart x = true) :
    ¬(x.head? = some '[' ∨ x.head? = some '\x7b') := by
  cases x with
  | nil => simp
  | cons c x =>
      simp only [List.head?_cons, Option.some.injEq]
      rintro (rfl | rfl) <;> cases x <;> simp [plainStart, indicators] at start

theorem readNode_self_iff :
    readNode flow (x.dropWhile isWhite) [] = some (.scalar x) ↔
      plainStart x = true ∧ endsKey x = false ∧ (uncomment true x).2 = false ∧ trim x = x := by
  rw [← plain_single_self_iff, readNode]
  by_cases bracket : (x.dropWhile isWhite).head? = some '[' ∨
      (x.dropWhile isWhite).head? = some '\x7b'
  · rw [if_pos bracket]
    refine iff_of_false (by cases flow (x.dropWhile isWhite) <;> simp) fun read => ?_
    obtain ⟨start, -, -, trimmed⟩ := plain_single_self_iff.mp read
    rw [dropWhile_of_trim trimmed] at bracket
    exact plainStart_not_bracket start bracket
  · rw [if_neg bracket, Option.map_eq_some_iff]
    simp

/-! ## What is read of the blocks -/

def Block.entries (b : Block flow) : List Entry :=
  b.lines.map fun l => ⟨l.drop 2, []⟩

theorem group_next {rest : List Line} (next : ∀ l ∈ rest, kind l = .next (l.drop 2))
    {entries : List Entry} {mappings : List (List Entry)}
    (read : group ls = some ([], entries, mappings)) :
    group (rest ++ ls) = some ([], (rest.map fun l => ⟨l.drop 2, []⟩) ++ entries, mappings) := by
  induction rest with
  | nil => exact read
  | cons l rest ih =>
      obtain ⟨here, others⟩ := List.forall_mem_cons.mp next
      rw [List.cons_append, group, ih others]
      simp [here]

theorem group_blocks {blocks : List (Block flow)} :
    group (blocks.flatMap Block.lines) = some ([], [], blocks.map Block.entries) := by
  induction blocks with
  | nil => rfl
  | cons b blocks ih =>
      have next : ∀ l ∈ entryLine nameKey b.written :: b.rest.map (·.1),
          kind l = .next (l.drop 2) := by
        intro l member
        rw [List.mem_cons, List.mem_map] at member
        obtain rfl | ⟨r, member, rfl⟩ := member
        · exact nameKey_isWord.kind b.written
        · exact (b.others r member).kind
      rw [List.flatMap_cons, Block.lines, List.cons_append, group, group_next next ih]
      simp [b.opens.kind, Block.entries, Block.lines]

theorem readEntries_block (b : Block flow) :
    b.entries.mapM (readEntry flow) =
      (readNode flow (b.written.dropWhile isWhite) []).bind fun node =>
        b.fields.map fun fields => b.type :: (nameKey, node) :: fields := by
  have others : (b.rest.map fun r => (⟨r.1.drop 2, []⟩ : Entry)).mapM (readEntry flow) =
      b.fields := by
    rw [List.mapM_map]
    exact List.mapM_option_congr fun r member => (b.others r member).reads
  have name : readEntry flow ⟨(entryLine nameKey b.written).drop 2, []⟩ =
      (readNode flow (b.written.dropWhile isWhite) []).map ((nameKey, ·)) :=
    nameKey_isWord.readEntry b.written
  rw [Block.entries, Block.lines, List.map_cons, List.map_cons, List.map_map, List.mapM_cons,
    List.mapM_cons, b.opens.reads, name]
  simp only [Function.comp_def, others]
  cases readNode flow (b.written.dropWhile isWhite) [] <;> cases b.fields <;> rfl

theorem get_name {b : Block flow} {fields : Mapping V} (read : b.fields = some fields)
    (node : Node V) : Mapping.get (b.type :: (nameKey, node) :: fields) nameKey = some node := by
  have others : fields.reverse.lookup nameKey = none := by
    rw [List.lookup_eq_none_iff]
    intro entry member
    have key := List.mem_map_of_mem (f := (·.1)) (List.mem_reverse.mp member)
    rw [(Block.fields_eq_some read).1] at key
    obtain ⟨r, mem, same⟩ := List.mem_map.mp key
    exact bne_iff_ne.mpr (same ▸ Ne.symm (b.others r mem).unnamed)
  rw [Mapping.get, List.reverse_cons, List.reverse_cons, List.append_assoc, List.lookup_append,
    others, Option.none_or, List.singleton_append, List.lookup_cons_self]

theorem parse_whole {blocks : List (Block flow)}
    (whole : ∀ b ∈ blocks, ∀ c ∈ b.written, isBreak c = false) :
    parse flow (text blocks) = if (text blocks).all isLegal then
      blocks.mapM fun b => (readNode flow (b.written.dropWhile isWhite) []).bind fun node =>
        b.fields.map fun fields => b.type :: (nameKey, node) :: fields else none := by
  have single : (blocks.flatMap fun b => b.lines.flatMap lines) = blocks.flatMap Block.lines := by
    refine List.flatMap_congr fun b member => ?_
    have alone : ∀ l ∈ b.lines, lines l = [l] := by
      intro l mem
      rw [Block.lines, List.mem_cons, List.mem_cons, List.mem_map] at mem
      obtain rfl | rfl | ⟨r, mem, rfl⟩ := mem
      · exact lines_of_whole fun c mem => (b.opens.chars c mem).2
      · refine lines_of_whole fun c mem => ?_
        rw [entryLine_append] at mem
        rcases List.mem_append.mp mem with mem | mem
        · exact (nameKey_isWord.line c mem).2
        · exact whole b member c mem
      · exact lines_of_whole fun c mem' => ((b.others r mem).chars c mem').2
    rw [List.flatMap_congr alone]
    simp
  have begins : items ([] :: blocks.flatMap Block.lines) = some (blocks.map Block.entries) := by
    have blank : kind [] = .more := by decide
    have silent : isSilent [] = true := by decide
    simp [items, group, group_blocks, blank, silent]
  rw [parse, lines_text, single, begins, Option.bind_some, List.mapM_map]
  simp only [Function.comp_def, readEntries_block]

def ReadsNames (flow : Line → Option V) (blocks : List (Block flow)) : Prop :=
  ∃ maps, parse flow (text blocks) = some maps ∧
    maps.map (·.get nameKey) = blocks.map fun b => some (.scalar b.name)

theorem parse_clear {blocks : List (Block flow)} (clear : ∀ b ∈ blocks, b.Clear) :
    parse flow (text blocks) = some (blocks.map Block.mapping) := by
  have legal : (text blocks).all isLegal = true := by
    rw [List.all_eq_true, text]
    intro c member
    obtain ⟨l, line, member⟩ := List.mem_flatMap.mp member
    rcases List.mem_cons.mp member with rfl | member
    · decide
    obtain ⟨b, block, line⟩ := List.mem_flatMap.mp line
    rw [Block.lines, List.mem_cons, List.mem_cons, List.mem_map] at line
    obtain rfl | rfl | ⟨r, mem, rfl⟩ := line
    · exact (b.opens.chars c member).1
    · rw [entryLine_append, (clear b block).written] at member
      rcases List.mem_append.mp member with member | member
      · exact (nameKey_isWord.line c member).1
      · exact ((clear b block).plain.chars c member).1
    · exact ((b.others r mem).chars c member).1
  have whole : ∀ b ∈ blocks, ∀ c ∈ b.written, isBreak c = false := by
    intro b block c member
    rw [(clear b block).written] at member
    exact ((clear b block).plain.chars c member).2
  rw [parse_whole whole, if_pos legal, List.mapM_eq_some_iff, List.forall₂_map_right_iff,
    List.forall₂_same]
  intro b block
  obtain ⟨written, ⟨-, start, value, comment, trimmed⟩, read⟩ := clear b block
  obtain ⟨fields, read⟩ := Option.isSome_iff_exists.mp read
  rw [written, readNode_self_iff.mpr ⟨start, value, comment, trimmed⟩, Block.mapping, read]
  rfl

theorem more_lines_le (blocks : List (Block flow)) :
    (blocks.flatMap fun b => b.lines.flatMap lines).countP (kind · = .more) ≤
      (blocks.map fun b => b.name.countP isBreak).sum := by
  induction blocks with
  | nil => simp
  | cons b blocks ih =>
      have fixed : ∀ l, (∀ c ∈ l, isBreak c = false) → kind l ≠ .more →
          (lines l).countP (kind · = .more) = 0 := by
        intro l whole other
        rw [lines_of_whole whole]
        simp [other]
      have first : (lines b.first).countP (kind · = .more) = 0 :=
        fixed b.first (fun c member => (b.opens.chars c member).2) (by simp [b.opens.kind])
      have others : ((b.rest.map (·.1)).flatMap lines).countP (kind · = .more) = 0 := by
        rw [List.countP_eq_zero]
        intro l member
        obtain ⟨l', member', mem⟩ := List.mem_flatMap.mp member
        obtain ⟨r, rest, rfl⟩ := List.mem_map.mp member'
        have reads := b.others r rest
        rw [lines_of_whole fun c mem => (reads.chars c mem).2, List.mem_singleton] at mem
        simp [mem, reads.kind]
      have name : (lines (entryLine nameKey b.written)).countP (kind · = .more) ≤
          b.name.countP isBreak := by
        obtain ⟨l, ls, split, lines⟩ := lines_prefix
          (fun c member => (nameKey_isWord.line c member).2) b.written
        have count := lines_length_le b.written
        rw [split, List.length_cons, b.breaks] at count
        rw [entryLine_append, lines, List.countP_cons_of_neg]
        · exact (List.countP_le_length).trans (by omega)
        · rw [← entryLine_append, nameKey_isWord.kind]
          simp
      have here : (b.lines.flatMap lines).countP (kind · = .more) ≤ b.name.countP isBreak := by
        rw [Block.lines, List.flatMap_cons, List.flatMap_cons, List.countP_append,
          List.countP_append, first, others]
        omega
      rw [List.flatMap_cons, List.countP_append, List.map_cons, List.sum_cons]
      exact Nat.add_le_add here ih

theorem count_le_weight (x : Line) : x.count '\n' ≤ weight x := by
  rw [weight]
  split_ifs <;> omega

theorem count_eq_zero_of_weight {xs : List Line}
    (few : (xs.map weight).sum ≤ (xs.map (·.count '\n')).sum) : ∀ x ∈ xs, x.count '\n' = 0 := by
  have least : ∀ xs : List Line, (xs.map (·.count '\n')).sum ≤ (xs.map weight).sum :=
    fun xs => List.sum_le_sum fun x _ => count_le_weight x
  induction xs with
  | nil => simp
  | cons x xs ih =>
      have here := count_le_weight x
      have rest := least xs
      rw [List.map_cons, List.map_cons, List.sum_cons, List.sum_cons] at few
      have single : x.count '\n' = 0 := by
        by_contra some
        have : weight x = x.count '\n' + 1 := if_neg some
        omega
      exact List.forall_mem_cons.mpr ⟨single, ih (by omega)⟩

theorem name_mem_text {blocks : List (Block flow)} {b : Block flow} (block : b ∈ blocks)
    (member : c ∈ b.written) : c ∈ text blocks := by
  rw [text, List.mem_flatMap]
  refine ⟨entryLine nameKey b.written, List.mem_flatMap.mpr ⟨b, block, by simp [Block.lines]⟩, ?_⟩
  rw [entryLine_append]
  exact List.mem_cons_of_mem _ (List.mem_append_right _ member)

theorem readNode_of_names {blocks : List (Block flow)} {maps : List (Mapping V)}
    (read : blocks.mapM (fun b => (readNode flow (b.written.dropWhile isWhite) []).bind fun node =>
      b.fields.map fun fields => b.type :: (nameKey, node) :: fields) = some maps)
    (names : maps.map (·.get nameKey) = blocks.map fun b => some (.scalar b.name)) :
    ∀ b ∈ blocks, readNode flow (b.written.dropWhile isWhite) [] = some (.scalar b.name) ∧
      b.fields.isSome = true := by
  rw [List.mapM_eq_some_iff] at read
  induction read with
  | nil => simp
  | cons here rest ih =>
      rw [List.map_cons, List.map_cons, List.cons.injEq] at names
      obtain ⟨node, reads, here⟩ := Option.bind_eq_some_iff.mp here
      obtain ⟨fields, found, rfl⟩ := Option.map_eq_some_iff.mp here
      have same := names.1
      rw [get_name found] at same
      exact List.forall_mem_cons.mpr ⟨⟨by rw [reads, same], by rw [found]; rfl⟩, ih names.2⟩

theorem readNode_scalar_eq (whites : l.countP isWhite = x.countP isWhite)
    (read : readNode flow (l.dropWhile isWhite) [] = some (.scalar x)) : l = x := by
  rw [readNode] at read
  split_ifs at read
  · obtain ⟨v, -, same⟩ := Option.map_eq_some_iff.mp read
    cases same
  · obtain ⟨text, scalar, same⟩ := Option.map_eq_some_iff.mp read
    cases same
    exact plain_single_eq whites scalar

/-- All names are read exactly when all of them are plain and stand as they are, and the other lines
can be read. -/
theorem readsNames_iff (blocks : List (Block flow)) :
    ReadsNames flow blocks ↔ ∀ b ∈ blocks, b.Clear := by
  constructor
  · intro ⟨maps, read, names⟩
    have names' : maps.map (·.get nameKey) =
        (blocks.map (·.name)).map fun x => some (.scalar x) := by
      rw [names, List.map_map]
      rfl
    obtain ⟨feeds, weights⟩ := parse_weight (lines_text blocks) read names'
    -- scalars with breaks would need more lines than the names bring
    have few : ((blocks.map (·.name)).map weight).sum ≤
        ((blocks.map (·.name)).map (·.count '\n')).sum := by
      refine (weights.trans (more_lines_le blocks)).trans (le_of_eq ?_)
      rw [List.map_map]
      refine congrArg List.sum (List.map_congr_left fun b block => ?_)
      refine List.countP_congr fun c member => ?_
      constructor
      · intro broken
        simpa using feeds b.name (List.mem_map_of_mem block) c member broken
      · intro feed
        rw [show c = '\n' by simpa using feed]
        rfl
    have single := count_eq_zero_of_weight few
    have whole : ∀ b ∈ blocks, ∀ c ∈ b.written, isBreak c = false := by
      intro b block
      have none : b.name.countP isBreak = 0 := by
        rw [List.countP_eq_zero]
        intro c member broken
        have feed := feeds b.name (List.mem_map_of_mem block) c member broken
        subst feed
        exact List.count_eq_zero.mp (single b.name (List.mem_map_of_mem block)) member
      rw [← b.breaks, List.countP_eq_zero] at none
      simpa using none
    rw [parse_whole whole] at read
    split_ifs at read with legal
    intro b block
    obtain ⟨reads, fields⟩ := readNode_of_names read names b block
    have written := readNode_scalar_eq b.whites reads
    have chars : ∀ c ∈ b.name, isLegal c = true ∧ isBreak c = false := by
      intro c member
      rw [← written] at member
      exact ⟨List.all_eq_true.mp legal c (name_mem_text block member), whole b block c member⟩
    rw [written] at reads
    obtain ⟨start, value, comment, trimmed⟩ := readNode_self_iff.mp reads
    exact ⟨written, ⟨chars, start, value, comment, trimmed⟩, fields⟩
  · intro clear
    refine ⟨_, parse_clear clear, ?_⟩
    rw [List.map_map]
    refine List.map_congr_left fun b block => ?_
    obtain ⟨fields, read⟩ := Option.isSome_iff_exists.mp (clear b block).fields
    rw [Function.comp_apply, Block.mapping, read, Option.getD_some, get_name read]

theorem lineReads_flow {key t : Line} (word : IsWord key) (other : key ≠ nameKey)
    (chars : ∀ c ∈ t, 0x20 ≤ c.toNat ∧ c.toNat ≤ 0x7e)
    (bracket : t.head? = some '[' ∨ t.head? = some '\x7b') :
    LineReads flow .next (entryLine key t) key ((flow t).map .flow) where
  chars := by
    intro c member
    rw [entryLine_append] at member
    rcases List.mem_append.mp member with member | member
    · exact word.line c member
    · obtain ⟨low, high⟩ := chars c member
      simp only [isLegal, isBreak, Bool.or_eq_true, Bool.and_eq_true, decide_eq_true_eq,
        List.mem_cons, List.not_mem_nil, or_false, decide_eq_false_iff_not]
      omega
  kind := word.kind t
  reads := by
    have whole : t.dropWhile isWhite = t := by
      cases t with
      | nil => rfl
      | cons c t =>
          have dark : isWhite c = false := by
            rcases bracket with same | same <;> obtain rfl := Option.some.inj same <;> rfl
          rw [List.dropWhile_cons_of_neg (by simp [dark])]
    show readEntry flow ⟨key ++ ':' :: ' ' :: t, []⟩ = _
    rw [word.readEntry, whole, readNode, if_pos bracket]
    rfl
  unnamed := other

/-! ## Names with a suffix -/

section Suffix
variable {s s' : Line}

theorem endsKey_no_colon (none : ':' ∉ l) : endsKey l = false := by
  fun_induction endsKey l with
  | case1 => rfl
  | case2 c => simpa [eq_comm] using none
  | case3 c d cs ih =>
      rw [List.mem_cons, not_or] at none
      simp [ih none.2, Ne.symm none.1]

theorem endsKey_suffix (word : ∀ c ∈ s, isWordChar c = true) (x : Line) :
    endsKey (x ++ '-' :: s) = endsKey (x ++ ['-', 'a']) := by
  have base : ∀ s, (∀ c ∈ s, isWordChar c = true) → endsKey ('-' :: s) = false := by
    intro s word
    refine endsKey_no_colon fun member => ?_
    rcases List.mem_cons.mp member with same | member
    · cases same
    · exact absurd (word ':' member) (by decide)
  induction x with
  | nil => rw [List.nil_append, List.nil_append, base s word, base ['a'] (by decide)]
  | cons c x ih =>
      cases x with
      | nil =>
          rw [List.nil_append, List.nil_append] at ih
          simp [endsKey, ih, isWhite]
      | cons d x =>
          rw [List.cons_append, List.cons_append] at ih
          simp [endsKey, ih]

theorem uncomment_suffix (word : ∀ c ∈ s, isWordChar c = true) (x : Line) (w : Bool) :
    (uncomment w (x ++ '-' :: s)).2 = (uncomment w (x ++ ['-', 'a'])).2 := by
  have base : ∀ s, (∀ c ∈ s, isWordChar c = true) → '#' ∉ '-' :: s := by
    intro s word member
    rcases List.mem_cons.mp member with same | member
    · cases same
    · exact absurd (word '#' member) (by decide)
  induction x generalizing w with
  | nil =>
      rw [List.nil_append, List.nil_append, uncomment_no_hash (base s word),
        uncomment_no_hash (base ['a'] (by decide))]
  | cons c x ih =>
      rw [List.cons_append, List.cons_append, uncomment, uncomment]
      split_ifs
      · rfl
      · exact ih (isWhite c)

theorem trim_of_ends {c : Char} (first : ∀ d, l.head? = some d → isWhite d = false)
    (last : isWhite c = false) : trim (l ++ [c]) = l ++ [c] := by
  have start : (l ++ [c]).dropWhile isWhite = l ++ [c] := by
    cases l with
    | nil => simp [last]
    | cons d l =>
        rw [List.cons_append, List.dropWhile_cons_of_neg (by simp [first d rfl])]
  rw [trim, start, List.rdropWhile_concat_neg _ _ _ (by simp [last])]

theorem plainStart_head (start : plainStart l = true) :
    ∀ d, l.head? = some d → isWhite d = false := by
  intro d head
  fun_cases plainStart l with
  | case1 => cases head
  | case2 c =>
      obtain rfl := Option.some.inj head
      simp only [plainStart, Bool.and_eq_true, Bool.not_eq_true'] at start
      exact start.1
  | case3 c e cs =>
      obtain rfl := Option.some.inj head
      simp only [plainStart, Bool.and_eq_true, Bool.not_eq_true'] at start
      exact start.1

theorem plainStart_suffix (word : IsWord s) (x : Line) :
    plainStart (x ++ '-' :: s) = plainStart (x ++ ['-', 'a']) := by
  obtain ⟨c, s, rfl⟩ := List.exists_cons_of_ne_nil word.ne_nil
  have dark : isWhite c = false := (word_char (word.chars c (by simp))).1
  have dark' : isWhite 'a' = false := rfl
  match x with
  | [] => simp [plainStart, dark, dark']
  | [_] => rfl
  | _ :: _ :: _ => rfl

theorem PlainSafe.suffix (word : IsWord s) (word' : IsWord s') {x : Line}
    (safe : PlainSafe (x ++ '-' :: s)) : PlainSafe (x ++ '-' :: s') := by
  have start : plainStart (x ++ '-' :: s') = true := by
    rw [plainStart_suffix word', ← plainStart_suffix word]
    exact safe.start
  refine ⟨fun c member => ?_, start, ?_, ?_, ?_⟩
  · rcases List.mem_append.mp member with member | member
    · exact safe.chars c (List.mem_append_left _ member)
    rcases List.mem_cons.mp member with rfl | member
    · decide
    · obtain ⟨-, legal, whole, -⟩ := word_char (word'.chars c member)
      exact ⟨legal, whole⟩
  · rw [endsKey_suffix word'.chars, ← endsKey_suffix word.chars]
    exact safe.value
  · rw [uncomment_suffix word'.chars, ← uncomment_suffix word.chars]
    exact safe.comment
  · have last := word_char (word'.chars _ (List.getLast_mem word'.ne_nil))
    have ends : x ++ '-' :: s' = (x ++ '-' :: s'.dropLast) ++ [s'.getLast word'.ne_nil] := by
      rw [List.append_assoc, List.cons_append, List.dropLast_append_getLast]
    rw [ends] at start ⊢
    refine trim_of_ends (fun d head => ?_) last.1
    exact plainStart_head start d (by rw [List.head?_append, head, Option.some_or])

theorem plainSafe_suffix (word : IsWord s) (word' : IsWord s') (x : Line) :
    PlainSafe (x ++ '-' :: s) ↔ PlainSafe (x ++ '-' :: s') :=
  ⟨.suffix word word', .suffix word' word⟩

end Suffix

end Yaml
