import Regnant.Lib.YamlTree

namespace Yaml

structure Key where
  raw : Line
  text : Line

inductive Written where
  | scalar (raw text : Line)
  | mapping (entries : List (Key × Written))

mutual

def Written.data : Written → Data
  | .scalar _ text => .scalar text
  | .mapping entries => .mapping (entriesData entries)

def entriesData : List (Key × Written) → List (Line × Data)
  | [] => []
  | (key, written) :: entries => (key.text, written.data) :: entriesData entries

end

mutual

def Written.lines (depth : Nat) (key : Key) : Written → List (Nat × Line)
  | .scalar raw _ => [(depth, key.raw ++ ':' :: ' ' :: raw)]
  | .mapping entries => (depth, key.raw ++ [':']) :: entriesLines (depth + 2) entries

def entriesLines (depth : Nat) : List (Key × Written) → List (Nat × Line)
  | [] => []
  | (key, written) :: entries => written.lines depth key ++ entriesLines depth entries

end

def indented (l : Nat × Line) : Line :=
  List.replicate l.1 ' ' ++ l.2

def itemText (entries : List (Key × Written)) : List Line :=
  match entriesLines 2 entries with
  | [] => []
  | l :: ls => ('-' :: ' ' :: l.2) :: ls.map indented

def Dark (l : Line) : Prop :=
  ∃ c t, l = c :: t ∧ isWhite c = false ∧ c ≠ '#'

structure Key.Reads (key : Key) : Prop where
  chars : ∀ c ∈ key.raw, isLegal c = true ∧ isBreak c = false
  dark : Dark key.raw
  colon : ':' ∉ key.raw
  reads : readKey key.raw = some key.text

mutual

def Written.Reads : Written → Prop
  | .scalar raw text =>
      (∀ c ∈ raw, isLegal c = true ∧ isBreak c = false) ∧ raw.dropWhile isWhite = raw ∧
        readScalar raw = some text
  | .mapping entries => entries ≠ [] ∧ EntriesRead entries

def EntriesRead : List (Key × Written) → Prop
  | [] => True
  | (key, written) :: entries => key.Reads ∧ written.Reads ∧ EntriesRead entries

end

theorem isWord_of_forall {x : Line} (nonempty : x ≠ [])
    (chars : x.Forall (isWordChar · = true)) : IsWord x :=
  ⟨nonempty, List.forall_iff_forall_mem.mp chars⟩

theorem IsWord.reads {x : Line} (word : IsWord x) : Key.Reads ⟨x, x⟩ where
  chars c member := by
    obtain ⟨-, legal, whole, -⟩ := word_char (word.chars c member)
    exact ⟨legal, whole⟩
  dark := by
    obtain ⟨c, t, rfl⟩ := List.exists_cons_of_ne_nil word.ne_nil
    obtain ⟨white, -, -, mark⟩ := word_char (word.chars c (by simp))
    exact ⟨c, t, rfl, white, fun same => mark (by simp [same])⟩
  colon := word.no_mark (by simp)
  reads := word.readKey

theorem readScalar_plain {x : Line} (safe : PlainSafe x) : readScalar x = some x := by
  have read := (plain_single_self_iff (x := x)).mpr
    ⟨safe.start, safe.value, safe.comment, safe.trimmed⟩
  rw [dropWhile_of_trim safe.trimmed] at read
  have unquoted : ∀ rest, x ≠ '\x22' :: rest := by
    rintro rest rfl
    have start := safe.start
    cases rest <;> simp [plainStart, indicators] at start
  rw [readScalar]
  · exact read
  · exact unquoted

mutual

def Written.tree (depth : Nat) (key : Key) : Written → Tree
  | .scalar raw _ => .node depth (key.raw ++ ':' :: ' ' :: raw) []
  | .mapping entries => .node depth (key.raw ++ [':']) (entriesTrees (depth + 2) entries)

def entriesTrees (depth : Nat) : List (Key × Written) → List Tree
  | [] => []
  | (key, written) :: entries => written.tree depth key :: entriesTrees depth entries

end

variable {depth : Nat} {key : Key} {entries : List (Key × Written)} {rest : List (Nat × Line)}

theorem Written.tree_depth (written : Written) : (written.tree depth key).depth = depth := by
  cases written <;> rfl

theorem entriesTrees_depth (depth : Nat) (entries : List (Key × Written)) :
    ∀ t ∈ entriesTrees depth entries, t.depth = depth := by
  induction entries with
  | nil => simp [entriesTrees]
  | cons entry entries ih =>
      obtain ⟨key, written⟩ := entry
      exact List.forall_mem_cons.mpr ⟨written.tree_depth, ih⟩

theorem level_entriesTrees (depth : Nat) (entries : List (Key × Written)) :
    level (entriesTrees depth entries) = true := by
  cases entries with
  | nil => rfl
  | cons entry entries =>
      obtain ⟨key, written⟩ := entry
      rw [entriesTrees, level, List.all_eq_true]
      intro t member
      simp [entriesTrees_depth depth entries t member, written.tree_depth]

def Outside (depth : Nat) (rest : List (Nat × Line)) : Prop :=
  ∀ t, (forest rest).head? = some t → t.depth ≤ depth

theorem plant_below {text : Line} {below above : List Tree} (deeper : ∀ t ∈ below, depth < t.depth)
    (outside : ∀ t, above.head? = some t → t.depth ≤ depth) :
    plant (depth, text) (below ++ above) = .node depth text below :: above := by
  have stops : above.takeWhile (depth < ·.depth) = [] ∧
      above.dropWhile (depth < ·.depth) = above := by
    cases above with
    | nil => exact ⟨rfl, rfl⟩
    | cons t above =>
        have shallow : ¬depth < t.depth := not_lt.mpr (outside t rfl)
        simp [shallow]
  have all : ∀ t ∈ below, decide (depth < t.depth) = true :=
    fun t member => by simpa using deeper t member
  rw [plant, List.takeWhile_append_of_pos all, List.dropWhile_append_of_pos all, stops.1, stops.2,
    List.append_nil]

mutual

theorem Written.forest_lines (depth : Nat) (key : Key) (rest : List (Nat × Line)) :
    ∀ written : Written, Outside depth rest →
      forest (written.lines depth key ++ rest) = written.tree depth key :: forest rest
  | .scalar raw _, outside => @plant_below _ _ [] _ (by simp) outside
  | .mapping entries, outside => by
      have further : Outside (depth + 2) rest := fun t head => (outside t head).trans (by omega)
      have inner := forest_entriesLines (depth + 2) rest entries further
      rw [Written.lines, List.cons_append, forest, List.foldr_cons, ← forest, inner]
      exact plant_below (fun t member => by rw [entriesTrees_depth _ _ t member]; omega) outside

theorem forest_entriesLines (depth : Nat) (rest : List (Nat × Line)) :
    ∀ entries : List (Key × Written), Outside depth rest →
      forest (entriesLines depth entries ++ rest) = entriesTrees depth entries ++ forest rest
  | [], _ => rfl
  | (key, written) :: entries, outside => by
      have others := forest_entriesLines depth rest entries outside
      have after : Outside depth (entriesLines depth entries ++ rest) := by
        intro t head
        rw [others, List.head?_append] at head
        cases trees : entriesTrees depth entries with
        | nil =>
            rw [trees] at head
            exact outside t head
        | cons t' trees' =>
            rw [trees] at head
            obtain rfl := Option.some.inj head
            exact (entriesTrees_depth depth entries t' (by simp [trees])).le
      rw [entriesLines, List.append_assoc, written.forest_lines depth key _ after, others]
      rfl

end

/-! ## Reading trees -/

theorem splitKey_end {key : Line} (plain : ':' ∉ key) :
    splitKey (key ++ [':']) = some (key, []) := by
  induction key with
  | nil => rfl
  | cons c key ih =>
      rw [List.mem_cons, not_or] at plain
      have split := ih plain.2
      cases key with
      | nil => simp [splitKey, Ne.symm plain.1]
      | cons d key =>
          rw [List.cons_append] at split
          simp [splitKey, Ne.symm plain.1, split]

mutual

theorem Written.read_tree (depth : Nat) (key : Key) (keyReads : key.Reads) :
    ∀ written : Written, written.Reads →
      (written.tree depth key).read = some (key.text, written.data)
  | .scalar raw text, ⟨_, whole, reads⟩ => by
      simp [Written.tree, Tree.read, splitKey_append keyReads.colon, keyReads.reads, whole, reads,
        Written.data]
  | .mapping [], ⟨nonempty, _⟩ => absurd rfl nonempty
  | .mapping (entry :: entries), ⟨_, reads⟩ => by
      have inner := read_entriesTrees (depth + 2) (entry :: entries) reads
      have same := level_entriesTrees (depth + 2) (entry :: entries)
      obtain ⟨t, trees, here⟩ : ∃ t trees, entriesTrees (depth + 2) (entry :: entries) =
          t :: trees := ⟨_, _, rfl⟩
      rw [here] at inner same
      have silent : isSilent [] = true := rfl
      simp [Written.tree, here, Tree.read, splitKey_end keyReads.colon, keyReads.reads, silent,
        same, inner, Written.data]

theorem read_entriesTrees (depth : Nat) :
    ∀ entries : List (Key × Written), EntriesRead entries →
      readTrees (entriesTrees depth entries) = some (entriesData entries)
  | [], _ => rfl
  | (key, written) :: entries, ⟨keyReads, reads, others⟩ => by
      simp [entriesTrees, readTrees, written.read_tree depth key keyReads reads,
        read_entriesTrees depth entries others, entriesData]

end

theorem readItem_lines (reads : EntriesRead entries) :
    readItem (entriesLines depth entries) = some (entriesData entries) := by
  have grown : forest (entriesLines depth entries) = entriesTrees depth entries := by
    have none : Outside depth [] := fun t head => by cases head
    simpa [forest] using forest_entriesLines depth [] entries none
  rw [readItem, grown, level_entriesTrees, if_pos rfl, read_entriesTrees depth entries reads]

/-! ## Lines of text -/

def isText (c : Char) : Prop :=
  isLegal c = true ∧ isBreak c = false

structure Fits (depth : Nat) (l : Nat × Line) : Prop where
  depth : depth ≤ l.1
  dark : Dark l.2
  chars : ∀ c ∈ l.2, isText c

theorem Dark.append {l : Line} (dark : Dark l) (x : Line) : Dark (l ++ x) := by
  obtain ⟨c, t, rfl, white, hash⟩ := dark
  exact ⟨c, t ++ x, rfl, white, hash⟩

mutual

theorem Written.fit_lines (depth : Nat) (key : Key) (keyReads : key.Reads) :
    ∀ written : Written, written.Reads → ∀ l ∈ written.lines depth key, Fits depth l
  | .scalar raw _, ⟨chars, _, _⟩ => by
      have between : ∀ c ∈ [':', ' '], isText c := by simp [isText, isLegal, isBreak]
      rw [Written.lines, List.forall_mem_singleton]
      refine ⟨le_rfl, keyReads.dark.append _, fun c member => ?_⟩
      simp only [List.mem_append, List.mem_cons] at member
      rcases member with inKey | rfl | rfl | inRaw
      · exact keyReads.chars c inKey
      · exact between ':' (by simp)
      · exact between ' ' (by simp)
      · exact chars c inRaw
  | .mapping entries, ⟨_, reads⟩ => by
      rw [Written.lines, List.forall_mem_cons]
      refine ⟨⟨le_rfl, keyReads.dark.append _, fun c member => ?_⟩, fun l member => ?_⟩
      · rcases List.mem_append.mp member with inKey | inEnd
        · exact keyReads.chars c inKey
        · rw [List.mem_singleton.mp inEnd]
          simp [isText, isLegal, isBreak]
      · have inner := fit_entriesLines (depth + 2) entries reads l member
        exact ⟨by have := inner.depth; omega, inner.dark, inner.chars⟩

theorem fit_entriesLines (depth : Nat) :
    ∀ entries : List (Key × Written), EntriesRead entries →
      ∀ l ∈ entriesLines depth entries, Fits depth l
  | [], _ => by simp [entriesLines]
  | (key, written) :: entries, ⟨keyReads, reads, others⟩ => by
      rw [entriesLines, List.forall_mem_append]
      exact ⟨written.fit_lines depth key keyReads reads, fit_entriesLines depth entries others⟩

end

theorem number_indented {d : Nat} {l : Line} (dark : Dark l) :
    number (indented (d, l)) = (d, l) := by
  obtain ⟨c, t, rfl, white, -⟩ := dark
  have blank : c ≠ ' ' := by
    rintro rfl
    cases white
  have taken : (List.replicate d ' ' ++ c :: t).takeWhile (· = ' ') = List.replicate d ' ' := by
    rw [List.takeWhile_append_of_pos (by simp), List.takeWhile_cons_of_neg (by simpa using blank),
      List.append_nil]
  have left : (List.replicate d ' ' ++ c :: t).dropWhile (· = ' ') = c :: t := by
    rw [List.dropWhile_append_of_pos (by simp), List.dropWhile_cons_of_neg (by simpa using blank)]
  rw [number, indented, indent, taken, left, List.length_replicate]

theorem dark_not_silent {l : Line} (dark : Dark l) (d : Nat) :
    isSilent (indented (d, l)) = false := by
  obtain ⟨c, t, rfl, white, hash⟩ := dark
  have kept : ∀ w, c ∈ (uncomment w (List.replicate d ' ' ++ c :: t)).1 := by
    induction d with
    | zero =>
        intro w
        simp [uncomment, hash]
    | succ d ih =>
        intro w
        rw [List.replicate_succ, List.cons_append, uncomment]
        simp [ih]
  rw [isSilent, isBlank, List.all_eq_false]
  exact ⟨c, kept true, by simp [white]⟩

/-! ## Items -/

theorem itemLines_indented {ls : List Line} {under : List (Nat × Line)}
    {items : List (List (Nat × Line))} (read : itemLines ls = some (under, items))
    (inner : List (Nat × Line)) (fits : ∀ l ∈ inner, Fits 2 l) :
    itemLines (inner.map indented ++ ls) = some (inner ++ under, items) := by
  induction inner with
  | nil => exact read
  | cons l inner ih =>
      obtain ⟨here, others⟩ := List.forall_mem_cons.mp fits
      obtain ⟨d, text⟩ := l
      obtain ⟨d, rfl⟩ := Nat.exists_eq_add_of_le' here.depth
      have blanks : indented (d + 2, text) = ' ' :: ' ' :: indented (d, text) := by
        simp [indented, List.replicate_succ]
      have numbered := number_indented (d := d + 2) here.dark
      rw [blanks] at numbered
      rw [List.map_cons, List.cons_append, itemLines, ih others, blanks]
      simp [numbered]

theorem entriesLines_first (nonempty : entries ≠ []) :
    ∃ text ls, entriesLines depth entries = (depth, text) :: ls := by
  cases entries with
  | nil => exact absurd rfl nonempty
  | cons entry entries =>
      obtain ⟨key, written⟩ := entry
      cases written <;> exact ⟨_, _, rfl⟩

theorem itemLines_item {ls : List Line} {items : List (List (Nat × Line))}
    (nonempty : entries ≠ []) (reads : EntriesRead entries)
    (read : itemLines ls = some ([], items)) :
    itemLines (itemText entries ++ ls) = some ([], entriesLines 2 entries :: items) := by
  obtain ⟨text, inner, same⟩ : ∃ text inner, entriesLines 2 entries = (2, text) :: inner :=
    entriesLines_first nonempty
  have fits := fit_entriesLines 2 entries reads
  rw [same, List.forall_mem_cons] at fits
  have numbered : number (' ' :: ' ' :: text) = (2, text) := number_indented (d := 2) fits.1.dark
  rw [itemText, same, List.cons_append, itemLines, itemLines_indented read inner fits.2]
  simp [numbered]

theorem itemText_lines (reads : EntriesRead entries) :
    ∀ l ∈ itemText entries, (∀ c ∈ l, isText c) ∧ isSilent l = false := by
  have fits := fit_entriesLines 2 entries reads
  rw [itemText]
  cases same : entriesLines 2 entries with
  | nil => simp
  | cons first inner =>
      rw [same, List.forall_mem_cons] at fits
      obtain ⟨here, others⟩ := fits
      have marks : ∀ c ∈ ['-', ' '], isText c := by simp [isText, isLegal, isBreak]
      refine List.forall_mem_cons.mpr ⟨⟨fun c member => ?_, ?_⟩, fun l member => ?_⟩
      · rcases List.mem_cons.mp member with rfl | member
        · exact marks '-' (by simp)
        · rcases List.mem_cons.mp member with rfl | member
          · exact marks ' ' (by simp)
          · exact here.chars c member
      · have hyphen : Dark ('-' :: ' ' :: first.2) := ⟨'-', _, rfl, rfl, by decide⟩
        exact dark_not_silent hyphen 0
      · obtain ⟨⟨d, text⟩, within, rfl⟩ := List.mem_map.mp member
        have fit := others _ within
        refine ⟨fun c member => ?_, dark_not_silent fit.dark d⟩
        rcases List.mem_append.mp member with blank | inText
        · rw [List.eq_of_mem_replicate blank]
          exact marks ' ' (by simp)
        · exact fit.chars c inText

theorem parseTree_written {items : List (List (Key × Written))}
    (reads : ∀ item ∈ items, item ≠ [] ∧ EntriesRead item) :
    parseTree ((items.flatMap itemText).flatMap ('\n' :: ·)) = some (items.map entriesData) := by
  have texts : ∀ l ∈ items.flatMap itemText, (∀ c ∈ l, isText c) ∧ isSilent l = false := by
    intro l member
    obtain ⟨item, among, member⟩ := List.mem_flatMap.mp member
    exact itemText_lines (reads item among).2 l member
  have legal : ((items.flatMap itemText).flatMap ('\n' :: ·)).all isLegal = true := by
    rw [List.all_eq_true]
    intro c member
    obtain ⟨l, among, member⟩ := List.mem_flatMap.mp member
    rcases List.mem_cons.mp member with rfl | member
    · rfl
    · exact ((texts l among).1 c member).1
  have split : lines ((items.flatMap itemText).flatMap ('\n' :: ·)) =
      [] :: items.flatMap itemText := by
    have last : ∀ l ∈ items.flatMap itemText, l.getLast? ≠ some '\r' := fun l member =>
      getLast?_whole fun c inside => ((texts l member).1 c inside).2
    have alone : (items.flatMap itemText).flatMap lines = items.flatMap itemText := by
      rw [List.flatMap_congr fun l member =>
        lines_of_whole fun c inside => ((texts l member).1 c inside).2]
      simp
    have whole := lines_flatMap (a := []) last (by simp)
    rwa [List.nil_append, alone] at whole
  have kept : ([] :: items.flatMap itemText).filter (!isSilent ·) = items.flatMap itemText := by
    have silent : isSilent [] = true := rfl
    rw [List.filter_cons_of_neg (by simp [silent]), List.filter_eq_self]
    exact fun l member => by simp [(texts l member).2]
  have grouped : itemLines (items.flatMap itemText) = some ([], items.map (entriesLines 2)) := by
    clear texts legal split kept
    induction items with
    | nil => rfl
    | cons item items ih =>
        obtain ⟨⟨nonempty, here⟩, others⟩ := List.forall_mem_cons.mp reads
        exact itemLines_item nonempty here (ih others)
  have all : (items.map (entriesLines 2)).mapM readItem = some (items.map entriesData) := by
    rw [List.mapM_map, List.mapM_eq_some_iff, List.forall₂_map_right_iff, List.forall₂_same]
    exact fun item member => readItem_lines (reads item member).2
  rw [parseTree, if_pos legal, split, kept, readItems, grouped]
  exact all

end Yaml
