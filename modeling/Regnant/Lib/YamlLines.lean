import Regnant.Lib.Yaml

namespace Yaml

variable {a b p x : List Char} {l : Line} {ls : List Line} {c : Char}

theorem lines_ne_nil (a : List Char) : lines a ≠ [] := by
  induction a with
  | nil => simp [lines]
  | cons c a ih =>
      rw [lines]
      split_ifs
      · exact ih
      · simp
      · cases h : lines a <;> simp [consHead]

theorem consHead_append (ne : ls ≠ []) (rs : List Line) :
    consHead c (ls ++ rs) = consHead c ls ++ rs := by
  cases ls with
  | nil => exact absurd rfl ne
  | cons l ls => rfl

theorem lines_cons_break (broken : isBreak c = true) (alone : c = '\r' → a.head? ≠ some '\n') :
    lines (c :: a) = [] :: lines a := by
  rw [lines, if_neg (fun both => alone both.1 both.2), if_pos broken]

theorem lines_cons_whole (whole : isBreak c = false) : lines (c :: a) = consHead c (lines a) := by
  have this : c ≠ '\r' := by
    rintro rfl
    simp [isBreak] at whole
  rw [lines, if_neg (fun both => this both.1), if_neg (by simp [whole])]

theorem lines_append (last : a.getLast? ≠ some '\r') :
    lines (a ++ '\n' :: b) = lines a ++ lines b := by
  have feed : ∀ b, lines ('\n' :: b) = [] :: lines b :=
    fun b => lines_cons_break rfl (by simp)
  induction a with
  | nil => exact feed b
  | cons c a ih =>
      cases a with
      | nil =>
          have this : c ≠ '\r' := by
            rintro rfl
            exact last rfl
          cases broken : isBreak c with
          | true =>
              rw [List.cons_append, List.nil_append, lines_cons_break broken (absurd · this),
                lines_cons_break broken (absurd · this), feed]
              rfl
          | false =>
              rw [List.cons_append, List.nil_append, lines_cons_whole broken,
                lines_cons_whole broken, feed]
              rfl
      | cons d a =>
          have rest := ih (by simpa using last)
          by_cases crlf : c = '\r' ∧ d = '\n'
          · obtain ⟨rfl, rfl⟩ := crlf
            exact rest
          cases broken : isBreak c with
          | true =>
              have alone : c = '\r' → some d ≠ some '\n' :=
                fun return_ feed => crlf ⟨return_, Option.some.inj feed⟩
              rw [List.cons_append, lines_cons_break (a := d :: a ++ '\n' :: b) broken alone,
                lines_cons_break (a := d :: a) broken alone, rest]
              rfl
          | false =>
              rw [List.cons_append, lines_cons_whole broken, lines_cons_whole broken, rest,
                consHead_append (lines_ne_nil _)]

theorem lines_prefix (whole : ∀ c ∈ p, isBreak c = false) (x : List Char) :
    ∃ l ls, lines x = l :: ls ∧ lines (p ++ x) = (p ++ l) :: ls := by
  induction p with
  | nil =>
      obtain ⟨l, ls, same⟩ := List.exists_cons_of_ne_nil (lines_ne_nil x)
      exact ⟨l, ls, same, same⟩
  | cons c p ih =>
      obtain ⟨l, ls, same, rest⟩ := ih fun c member => whole c (List.mem_cons_of_mem _ member)
      have here : isBreak c = false := whole c (by simp)
      refine ⟨l, ls, same, ?_⟩
      have this : c ≠ '\r' := by
        rintro rfl
        simp [isBreak] at here
      rw [List.cons_append, lines, if_neg (fun both => this both.1), here, rest]
      rfl

theorem lines_of_whole (whole : ∀ c ∈ p, isBreak c = false) : lines p = [p] := by
  obtain ⟨l, ls, same, rest⟩ := lines_prefix whole []
  obtain ⟨rfl, rfl⟩ := List.cons.inj same
  simpa using rest

theorem lines_length_le (a : List Char) : (lines a).length ≤ a.countP isBreak + 1 := by
  induction a with
  | nil => simp [lines]
  | cons c a ih =>
      rw [lines, List.countP_cons]
      split_ifs
      all_goals first
        | exact ih.trans (by omega)
        | (rw [List.length_cons]; omega)
        | skip
      all_goals
        obtain ⟨l, ls, same⟩ := List.exists_cons_of_ne_nil (lines_ne_nil a)
        rw [same] at ih ⊢
        simpa [consHead] using ih

theorem lines_whole (a : List Char) : ∀ l ∈ lines a, ∀ c ∈ l, isBreak c = false := by
  induction a with
  | nil => simp [lines]
  | cons c a ih =>
      rw [lines]
      split_ifs with crlf broken
      · exact ih
      · simpa using ih
      · obtain ⟨l, ls, same⟩ := List.exists_cons_of_ne_nil (lines_ne_nil a)
        rw [same] at ih ⊢
        rw [consHead, List.forall_mem_cons]
        obtain ⟨here, rest⟩ := List.forall_mem_cons.mp ih
        exact ⟨List.forall_mem_cons.mpr ⟨by simpa using broken, here⟩, rest⟩

theorem uncomment_part (w : Bool) (l : Line) :
    (uncomment w l).1 <+: l ∧ ((uncomment w l).2 = true → (uncomment w l).1.length < l.length) ∧
      ((uncomment w l).2 = false → (uncomment w l).1 = l) := by
  induction l generalizing w with
  | nil => simp [uncomment]
  | cons c l ih =>
      rw [uncomment]
      split_ifs with hash
      · simp
      · obtain ⟨pre, shorter, same⟩ := ih (isWhite c)
        simpa using ⟨pre, shorter, same⟩

theorem trim_sublist (l : Line) : (trim l).Sublist l :=
  (List.rdropWhile_prefix ..).sublist.trans (List.dropWhile_sublist ..)

theorem dropWhile_of_trim (trimmed : trim x = x) : x.dropWhile isWhite = x := by
  refine (List.dropWhile_sublist isWhite).eq_of_length_le ?_
  calc x.length = (trim x).length := by rw [trimmed]
    _ ≤ (x.dropWhile isWhite).length := (List.rdropWhile_prefix ..).sublist.length_le

theorem plain_single (y : Line) :
    plain [y] = some x ↔
      x = trim (uncomment true y).1 ∧ plainStart x = true ∧ endsKey x = false := by
  have read : texts [y] = if endsKey (trim (uncomment true y).1) then none
      else some [trim (uncomment true y).1] := by
    simp [texts]
  rw [plain, read]
  cases value : endsKey (trim (uncomment true y).1) with
  | true => simpa [value] using fun same _ => by rw [same, value]
  | false =>
      cases text : trim (uncomment true y).1 with
      | nil =>
          refine iff_of_false (by simp) ?_
          rintro ⟨rfl, start, -⟩
          cases start
      | cons c t =>
          cases start : plainStart (c :: t) with
          | false => simpa [start] using fun same => by simp [same, start]
          | true =>
              rw [text] at value
              simp only [Bool.false_eq_true, if_false, Option.bind_eq_bind, Option.bind_some,
                List.dropWhile_cons, List.isEmpty_cons, start, if_true, fold, List.append_nil,
                Option.some.injEq]
              exact ⟨fun same => by rw [← same]; exact ⟨rfl, start, value⟩, fun same => same.1.symm⟩

theorem plain_single_self_iff :
    plain [x.dropWhile isWhite] = some x ↔
      plainStart x = true ∧ endsKey x = false ∧ (uncomment true x).2 = false ∧ trim x = x := by
  rw [plain_single]
  constructor
  · intro ⟨same, start, value⟩
    obtain ⟨pre, shorter, -⟩ := uncomment_part true (x.dropWhile isWhite)
    have drop := List.dropWhile_sublist isWhite (l := x)
    have kept := trim_sublist (uncomment true (x.dropWhile isWhite)).1
    rw [← same] at kept
    -- the steps only leave out, and together leave out nothing
    have whole : x.dropWhile isWhite = x :=
      drop.eq_of_length_le ((kept.trans pre.sublist).length_le)
    rw [whole] at pre shorter kept same
    have text : (uncomment true x).1 = x := pre.eq_of_length_le kept.length_le
    rw [text] at same
    refine ⟨start, value, ?_, same.symm⟩
    cases commented : (uncomment true x).2 with
    | false => rfl
    | true =>
        have less := shorter commented
        rw [text] at less
        exact absurd less (lt_irrefl _)
  · intro ⟨start, value, comment, trimmed⟩
    rw [dropWhile_of_trim trimmed, (uncomment_part true x).2.2 comment]
    exact ⟨trimmed.symm, start, value⟩

theorem uncomment_last (w : Bool) (commented : (uncomment w l).2 = true) :
    w = true ∧ (uncomment w l).1 = [] ∨
      ∃ c, (uncomment w l).1.getLast? = some c ∧ isWhite c = true := by
  induction l generalizing w with
  | nil => cases commented
  | cons c l ih =>
      rw [uncomment] at commented ⊢
      split_ifs at commented ⊢ with hash
      · simp only [Bool.and_eq_true, decide_eq_true_eq] at hash
        exact .inl ⟨hash.2, rfl⟩
      · obtain ⟨white, rest⟩ | ⟨d, last, white⟩ := ih (isWhite c) commented
        · exact .inr ⟨c, by simp [rest], white⟩
        · refine .inr ⟨d, ?_, white⟩
          rw [List.getLast?_cons, last]
          rfl

theorem dropWhile_eq_of_countP (whites : l.countP isWhite ≤ (l.dropWhile isWhite).countP isWhite) :
    l.dropWhile isWhite = l := by
  cases l with
  | nil => rfl
  | cons c l =>
      by_cases white : isWhite c = true
      · have kept := (List.dropWhile_sublist isWhite (l := l)).countP_le (p := isWhite)
        rw [List.dropWhile_cons_of_pos white, List.countP_cons_of_pos white] at whites
        omega
      · exact List.dropWhile_cons_of_neg white

theorem trim_eq_of_countP (whites : l.countP isWhite ≤ (trim l).countP isWhite) : trim l = l := by
  have back := (List.rdropWhile_prefix isWhite (l.dropWhile isWhite)).sublist.countP_le
    (p := isWhite)
  have start := dropWhile_eq_of_countP (whites.trans back)
  rw [trim, start] at whites ⊢
  have reverse := dropWhile_eq_of_countP (l := l.reverse)
    (by simpa [List.rdropWhile, List.countP_reverse] using whites)
  rw [List.rdropWhile, reverse, List.reverse_reverse]

theorem plain_single_eq (whites : l.countP isWhite = x.countP isWhite)
    (read : plain [l.dropWhile isWhite] = some x) : l = x := by
  obtain ⟨same, start, -⟩ := plain_single _ |>.mp read
  have pre := (uncomment_part true (l.dropWhile isWhite)).1.sublist
  have drop := List.dropWhile_sublist isWhite (l := l)
  have kept := trim_sublist (uncomment true (l.dropWhile isWhite)).1
  have count : l.countP isWhite ≤
      (trim (uncomment true (l.dropWhile isWhite)).1).countP isWhite := by rw [whites, same]
  have whole : l.dropWhile isWhite = l :=
    dropWhile_eq_of_countP (count.trans ((kept.trans pre).countP_le))
  rw [whole] at same pre count
  have trimmed := trim_eq_of_countP (pre.countP_le.trans count)
  rw [trimmed] at same
  cases commented : (uncomment true l).2 with
  | false => rw [same, (uncomment_part true l).2.2 commented]
  | true =>
      obtain ⟨-, empty⟩ | ⟨c, last, white⟩ := uncomment_last true commented
      · rw [same, empty] at start
        cases start
      · rw [trim, dropWhile_of_trim trimmed, List.rdropWhile_eq_self_iff] at trimmed
        obtain ⟨nonempty, ends⟩ := List.mem_getLast?_eq_getLast last
        exact absurd white (ends ▸ trimmed nonempty)

theorem texts_spec {ts : List Line} (read : texts ls = some ts) :
    ts.length ≤ ls.length ∧ ∀ t ∈ ts, ∀ c ∈ t, ∃ l ∈ ls, c ∈ l := by
  induction ls generalizing ts with
  | nil =>
      obtain rfl := Option.some.inj read
      simp
  | cons l ls ih =>
      have here : ∀ c ∈ trim (uncomment true l).1, c ∈ l := fun c member =>
        (uncomment_part true l).1.subset ((trim_sublist _).subset member)
      rw [texts] at read
      split_ifs at read
      · obtain rfl := Option.some.inj read
        refine ⟨by simp, ?_⟩
        intro t member c mem
        rw [List.mem_singleton.mp member] at mem
        exact ⟨l, by simp, here c mem⟩
      · obtain ⟨ts, rest, rfl⟩ := Option.map_eq_some_iff.mp read
        obtain ⟨length, chars⟩ := ih rest
        refine ⟨by simpa using length, ?_⟩
        intro t member c mem
        rcases List.mem_cons.mp member with rfl | member
        · exact ⟨l, by simp, here c mem⟩
        · obtain ⟨l', member', mem'⟩ := chars t member c mem
          exact ⟨l', List.mem_cons_of_mem _ member', mem'⟩

theorem fold_chars {blanks : Nat} (member : c ∈ fold blanks ls) :
    c = ' ' ∨ c = '\n' ∨ ∃ l ∈ ls, c ∈ l := by
  induction ls generalizing blanks with
  | nil => simp [fold] at member
  | cons l ls ih =>
      cases l with
      | nil =>
          rw [fold] at member
          obtain blank | feed | ⟨l, mem, here⟩ := ih member
          · exact .inl blank
          · exact .inr (.inl feed)
          · exact .inr (.inr ⟨l, List.mem_cons_of_mem _ mem, here⟩)
      | cons d l =>
          rw [fold] at member
          rcases List.mem_append.mp member with member | member
          · rcases List.mem_append.mp member with member | member
            · split_ifs at member
              · exact .inl (by simpa using member)
              · exact .inr (.inl (List.eq_of_mem_replicate member))
            · exact .inr (.inr ⟨_, by simp, member⟩)
          · obtain blank | feed | ⟨l', mem, here⟩ := ih member
            · exact .inl blank
            · exact .inr (.inl feed)
            · exact .inr (.inr ⟨l', List.mem_cons_of_mem _ mem, here⟩)

theorem fold_count (blanks : Nat) (whole : ∀ l ∈ ls, '\n' ∉ l) :
    (fold blanks ls).count '\n' ≤ blanks + ls.countP (·.isEmpty) ∧
      (fold blanks ls ≠ [] → ls.countP (·.isEmpty) < ls.length) := by
  induction ls generalizing blanks with
  | nil => simp [fold]
  | cons l ls ih =>
      obtain ⟨here, rest⟩ := List.forall_mem_cons.mp whole
      cases l with
      | nil =>
          obtain ⟨count, text⟩ := ih (blanks + 1) rest
          rw [fold]
          simp only [List.countP_cons, List.isEmpty_nil, if_true, List.length_cons]
          exact ⟨by omega, fun some => Nat.succ_lt_succ (text some)⟩
      | cons d l =>
          obtain ⟨count, -⟩ := ih 0 rest
          have blank := List.countP_le_length (p := (·.isEmpty)) (l := ls)
          have between : (if blanks = 0 then [' '] else List.replicate blanks '\n').count '\n' ≤
              blanks := by
            split_ifs with none <;> simp [none]
          rw [fold]
          simp only [List.count_append, List.countP_cons, List.isEmpty_cons, List.length_cons,
            List.count_eq_zero.mpr here, Bool.false_eq_true, if_false]
          exact ⟨by omega, fun _ => Nat.lt_succ_of_le blank⟩

theorem dropWhile_length_le {α : Type} (p : α → Bool) (l : List α) :
    (l.dropWhile p).length ≤ l.length :=
  (List.dropWhile_sublist p).length_le

theorem plain_breaks {more : List Line} (whole : ∀ l' ∈ l :: more, ∀ c ∈ l', isBreak c = false)
    (read : plain (l :: more) = some x) :
    (∀ c ∈ x, isBreak c = true → c = '\n') ∧
      (x.count '\n' = 0 ∨ x.count '\n' < more.length) := by
  simp only [plain, Option.bind_eq_bind, Option.bind_eq_some_iff] at read
  obtain ⟨ts, texts, read⟩ := read
  obtain ⟨length, chars⟩ := texts_spec texts
  have wholeTexts : ∀ t ∈ ts.dropWhile (·.isEmpty), ∀ c ∈ t, isBreak c = false := by
    intro t member c mem
    obtain ⟨l', member', mem'⟩ := chars t ((List.dropWhile_sublist _).subset member) c mem
    exact whole l' member' c mem'
  have dropped := dropWhile_length_le (·.isEmpty) ts
  split at read
  · cases read
  · rename_i t rest same
    rw [same] at wholeTexts dropped
    split_ifs at read
    obtain rfl := Option.some.inj read
    obtain ⟨here, others⟩ := List.forall_mem_cons.mp wholeTexts
    have noFeed : ∀ t : Line, (∀ c ∈ t, isBreak c = false) → '\n' ∉ t := by
      intro t whole member
      have := whole '\n' member
      simp [isBreak] at this
    obtain ⟨count, text⟩ := fold_count 0 fun t member => noFeed t (others t member)
    constructor
    · intro c member broken
      rcases List.mem_append.mp member with member | member
      · rw [here c member] at broken
        cases broken
      · obtain rfl | feed | ⟨t', mem, this⟩ := fold_chars member
        · simp [isBreak] at broken
        · exact feed
        · rw [others t' mem c this] at broken
          cases broken
    · rw [List.count_append, List.count_eq_zero.mpr (noFeed t here), Nat.zero_add]
      by_cases nothing : fold 0 rest = []
      · exact .inl (by rw [nothing]; rfl)
      · have := text nothing
        simp only [List.length_cons] at length dropped
        exact .inr (by omega)

end Yaml
