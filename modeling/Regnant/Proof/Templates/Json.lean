import Regnant.Lib.Collect
import Regnant.Sovereign.Secrets

namespace Regnant.Sovereign
open Osb

mutual

def jsonChars : Value → List Char
  | .none => "null".toList
  | .bool true => "true".toList
  | .bool false => "false".toList
  | .int n => (toString n).toList
  | .float (.finite q) => (toString q.num).toList ++ ".0".toList
  | .float _ => "NaN".toList
  | .str s => (tojsonString s).toList
  | .list items => "[".toList ++ (", ".toList).intercalate (jsonItems items) ++ "]".toList
  | .dict items => "\x7b".toList ++ (", ".toList).intercalate (jsonMembers items) ++ "\x7d".toList

def jsonItems : List Value → List (List Char)
  | [] => []
  | v :: items => jsonChars v :: jsonItems items

def jsonMembers : List (String × Value) → List (List Char)
  | [] => []
  | (key, v) :: items =>
      ((tojsonString key).toList ++ ": ".toList ++ jsonChars v) :: jsonMembers items

end

def plainJson (v : Value) : Option String :=
  some (String.ofList (jsonChars (sortKeys v)))

theorem plainJson_str (s : String) : plainJson (.str s) = some (tojsonString s) := by
  simp [plainJson, sortKeys, jsonChars]

theorem bracket_json {v : Value} (collection : isCollection v = true) :
    (jsonChars (sortKeys v)).head? = some '[' ∨ (jsonChars (sortKeys v)).head? = some '\x7b' := by
  cases v with
  | list items => exact .inl rfl
  | dict items => exact .inr rfl
  | _ => cases collection

theorem find_json {vs : List Value} {v : Value}
    (distinct : vs.Pairwise fun v w => jsonChars v ≠ jsonChars w) (member : v ∈ vs) :
    (vs.find? fun w => jsonChars w = jsonChars v) = some v := by
  induction vs with
  | nil => cases member
  | cons w vs ih =>
      obtain ⟨apart, distinct⟩ := List.pairwise_cons.mp distinct
      rcases List.mem_cons.mp member with rfl | member
      · simp
      · rw [List.find?_cons_of_neg (by simpa using apart v member)]
        exact ih distinct member

theorem sortMembers_eq_self {items : List (String × Value)}
    (sorted : ∀ m ∈ items, sortKeys m.2 = m.2) : sortMembers items = items := by
  induction items with
  | nil => rfl
  | cons m items ih =>
      obtain ⟨here, rest⟩ := List.forall_mem_cons.mp sorted
      simp [sortMembers, here, ih rest]

mutual

theorem sortKeys_sortKeys : ∀ v : Value, sortKeys (sortKeys v) = sortKeys v
  | .none | .bool _ | .int _ | .float _ | .str _ => rfl
  | .list items => congrArg Value.list (sortItems_sortItems items)
  | .dict items => by
      let below := fun a b : String × Value => a.1 ≤ b.1
      have total : Std.Total below := ⟨fun a b => String.le_total a.1 b.1⟩
      have trans : IsTrans (String × Value) below := ⟨fun _ _ _ => String.le_trans⟩
      have kept : sortMembers ((sortMembers items).insertionSort below) =
          (sortMembers items).insertionSort below := by
        rw [sortMembers_eq_self]
        exact fun m member => sorted_sortMembers items m ((List.mem_insertionSort below).mp member)
      simp only [sortKeys]
      rw [kept, (List.pairwise_insertionSort below _).insertionSort_eq]

theorem sortItems_sortItems :
    ∀ items : List Value, sortItems (sortItems items) = sortItems items
  | [] => rfl
  | v :: items => congrArg₂ List.cons (sortKeys_sortKeys v) (sortItems_sortItems items)

theorem sorted_sortMembers :
    ∀ items : List (String × Value), ∀ m ∈ sortMembers items, sortKeys m.2 = m.2
  | [] => by simp [sortMembers]
  | (key, v) :: items =>
      List.forall_mem_cons.mpr ⟨sortKeys_sortKeys v, sorted_sortMembers items⟩

end

def Printable (c : Char) : Prop :=
  0x20 ≤ c.toNat ∧ c.toNat ≤ 0x7e
  deriving Decidable

/-- A literal is unfolded to its characters, which is much cheaper than to compute `toList`. -/
theorem printable_ofList {s : String} {l : List Char} (eq : s = String.ofList l)
    (all : l.all (Printable ·) = true) : ∀ c ∈ s.toList, Printable c := by
  rw [eq, String.toList_ofList]
  simpa using all

theorem printable_hexDigit (n : Nat) : Printable (Yaml.hexDigit (n % 16)) := by
  have all : ∀ d : Fin 16, Printable (Yaml.hexDigit d) := by decide
  exact all ⟨n % 16, Nat.mod_lt _ (by decide)⟩

theorem printable_unicodeEscape (n : Nat) : ∀ c ∈ Yaml.unicodeEscape n, Printable c := by
  have marks : Printable '\x5c' ∧ Printable 'u' := by decide
  simp [Yaml.unicodeEscape, marks, printable_hexDigit]

theorem printable_dumpsChar (c : Char) : ∀ d ∈ dumpsChar c, Printable d := by
  unfold dumpsChar
  split
  next e found =>
    have all : ∀ p ∈ dumpsEscapes, Printable p.2 := by decide
    have mark : Printable '\x5c' := by decide
    have letter : Printable e := all (c, e) (Collect.mem_of_lookup found)
    simp [mark, letter]
  next =>
    split_ifs with printable
    · exact List.forall_mem_singleton.mpr printable
    · exact printable_unicodeEscape _
    · exact List.forall_mem_append.mpr ⟨printable_unicodeEscape _, printable_unicodeEscape _⟩

theorem printable_tojsonString (s : String) : ∀ c ∈ (tojsonString s).toList, Printable c := by
  have quote : Printable '\x22' := by decide
  have written : ∀ d ∈ '\x22' :: s.toList.flatMap dumpsChar ++ ['\x22'], Printable d := by
    simp only [List.forall_mem_append, List.forall_mem_cons, List.forall_mem_flatMap]
    exact ⟨⟨quote, fun c _ => printable_dumpsChar c⟩, quote, by simp⟩
  rw [tojsonString, String.toList_ofList, List.forall_mem_flatMap]
  intro d member
  rw [htmlSafe]
  split
  · exact printable_unicodeEscape _
  · exact List.forall_mem_singleton.mpr (written d member)

theorem printable_intercalate {sep : List Char} {parts : List (List Char)}
    (between : ∀ c ∈ sep, Printable c) (each : ∀ part ∈ parts, ∀ c ∈ part, Printable c) :
    ∀ c ∈ sep.intercalate parts, Printable c := by
  induction parts with
  | nil => simp
  | cons part parts ih =>
      obtain ⟨here, rest⟩ := List.forall_mem_cons.mp each
      cases parts with
      | nil => simpa using here
      | cons next parts =>
          simp only [List.intercalate_cons_cons, List.forall_mem_append]
          exact ⟨⟨here, between⟩, ih rest⟩

theorem printable_nat (n : Nat) : ∀ c ∈ n.repr.toList, Printable c := by
  intro c member
  rw [Nat.toList_repr] at member
  have digit := Char.isDigit_iff_toNat.mp
    (Nat.isDigit_of_mem_toDigits (by decide) (by decide) member)
  exact ⟨le_trans (by decide) digit.1, le_trans digit.2 (by decide)⟩

theorem printable_int (n : Int) : ∀ c ∈ (toString n).toList, Printable c := by
  rw [Int.toString_eq_repr, Int.repr_eq_if]
  split
  · exact printable_nat n.toNat
  · rw [String.toList_append, List.forall_mem_append]
    exact ⟨printable_ofList rfl (by decide), printable_nat (-n).toNat⟩

theorem printable_between {opening closing middle : List Char}
    (left : ∀ c ∈ opening, Printable c) (right : ∀ c ∈ closing, Printable c)
    (inner : ∀ c ∈ middle, Printable c) :
    ∀ c ∈ opening ++ middle ++ closing, Printable c :=
  List.forall_mem_append.mpr ⟨List.forall_mem_append.mpr ⟨left, inner⟩, right⟩

theorem printable_comma : ∀ c ∈ ", ".toList, Printable c := printable_ofList rfl (by decide)

mutual

theorem printable_json : ∀ v : Value, ∀ c ∈ jsonChars v, Printable c
  | .none | .bool true | .bool false => printable_ofList rfl (by decide)
  | .int n => printable_int n
  | .float (.finite q) =>
      List.forall_mem_append.mpr ⟨printable_int q.num, printable_ofList rfl (by decide)⟩
  | .float .nan | .float (.inf _) => printable_ofList rfl (by decide)
  | .str s => printable_tojsonString s
  | .list items => printable_between (printable_ofList rfl (by decide))
      (printable_ofList rfl (by decide))
      (printable_intercalate printable_comma (printable_jsonItems items))
  | .dict items => printable_between (printable_ofList rfl (by decide))
      (printable_ofList rfl (by decide))
      (printable_intercalate printable_comma (printable_jsonMembers items))

theorem printable_jsonItems : ∀ items : List Value, ∀ part ∈ jsonItems items,
    ∀ c ∈ part, Printable c
  | [] => by simp [jsonItems]
  | v :: items => List.forall_mem_cons.mpr ⟨printable_json v, printable_jsonItems items⟩

theorem printable_jsonMembers : ∀ items : List (String × Value), ∀ part ∈ jsonMembers items,
    ∀ c ∈ part, Printable c
  | [] => by simp [jsonMembers]
  | (key, v) :: items =>
      List.forall_mem_cons.mpr ⟨List.forall_mem_append.mpr ⟨List.forall_mem_append.mpr
        ⟨printable_tojsonString key, printable_ofList rfl (by decide)⟩, printable_json v⟩,
        printable_jsonMembers items⟩

end

theorem plainJson_writesLines : WritesLines plainJson where
  chars v text written c member := by
    obtain rfl := Option.some.inj written
    rw [String.toList_ofList] at member
    exact printable_json _ c member
  bracket v text collection written := by
    obtain rfl := Option.some.inj written
    rw [String.toList_ofList]
    exact bracket_json collection

end Regnant.Sovereign
