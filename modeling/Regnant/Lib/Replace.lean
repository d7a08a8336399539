import Mathlib.Data.List.Basic

namespace Replace

def replace (old new : List Char) (text : List Char) : List Char :=
  match text with
  | [] => []
  | c :: rest =>
      if old <+: c :: rest ∧ old ≠ [] then new ++ replace old new ((c :: rest).drop old.length)
      else c :: replace old new rest
termination_by text.length
decreasing_by
  · rename_i found
    have := List.length_pos_of_ne_nil found.2
    simp only [List.length_drop, List.length_cons]
    omega
  · simp

section
variable {old new plain rest : List Char} {c : Char}

theorem replace_found (nonempty : old ≠ []) :
    replace old new (old ++ rest) = new ++ replace old new rest := by
  obtain ⟨c, tail, rfl⟩ := List.exists_cons_of_ne_nil nonempty
  rw [List.cons_append, replace, if_pos]
  · rw [← List.cons_append, List.drop_left]
  · exact ⟨by rw [← List.cons_append]; exact List.prefix_append _ _, nonempty⟩

theorem replace_cons (absent : ¬old <+: c :: rest) :
    replace old new (c :: rest) = c :: replace old new rest := by
  rw [replace, if_neg fun found => absurd found.1 absent]

theorem replace_append {mark : Char} {tail : List Char} (head : old = mark :: tail)
    (unmarked : mark ∉ plain) :
    replace old new (plain ++ rest) = plain ++ replace old new rest := by
  induction plain with
  | nil => rfl
  | cons c plain ih =>
      rw [List.mem_cons, not_or] at unmarked
      have absent : ¬old <+: c :: (plain ++ rest) := by
        rw [head, List.cons_prefix_cons]
        exact fun found => unmarked.1 found.1
      rw [List.cons_append, replace_cons absent, ih unmarked.2, List.cons_append]

end

inductive Piece where
  | plain (text : List Char)
  | hole (name : List Char)
  deriving DecidableEq

def braced (name : List Char) : List Char :=
  '$' :: '{' :: (name ++ ['}'])

def Piece.text : Piece → List Char
  | .plain text => text
  | .hole name => braced name

def Piece.Proper : Piece → Prop
  | .plain text => '$' ∉ text
  | .hole name => '$' ∉ name ∧ '}' ∉ name

instance : DecidablePred Piece.Proper
  | .plain text => inferInstanceAs (Decidable ('$' ∉ text))
  | .hole name => inferInstanceAs (Decidable ('$' ∉ name ∧ '}' ∉ name))

abbrev Template := List Piece

def written (template : Template) : List Char :=
  template.flatMap Piece.text

def Template.Proper (template : Template) : Prop :=
  ∀ piece ∈ template, piece.Proper

instance (template : Template) : Decidable template.Proper :=
  inferInstanceAs (Decidable (∀ piece ∈ template, piece.Proper))

def Piece.fill (name value : List Char) : Piece → Piece
  | .plain text => .plain text
  | .hole name' => if name' = name then .plain value else .hole name'

variable {name name' value rest : List Char} {piece : Piece} {template : Template}

theorem closed_starts (braces : '}' ∉ name) (braces' : '}' ∉ name') :
    name ++ ['}'] <+: name' ++ '}' :: rest ↔ name = name' := by
  induction name generalizing name' with
  | nil => cases name' <;> simp_all [List.cons_prefix_cons]
  | cons c name ih =>
      rw [List.mem_cons, not_or] at braces
      cases name' with
      | nil => simp [List.cons_prefix_cons, Ne.symm braces.1]
      | cons c' name' =>
          rw [List.mem_cons, not_or] at braces'
          simp [List.cons_prefix_cons, ih braces.2 braces'.2]

theorem braced_starts (braces : '}' ∉ name) (braces' : '}' ∉ name') :
    braced name <+: braced name' ++ rest ↔ name = name' := by
  rw [braced, braced, List.cons_append, List.cons_append, List.cons_prefix_cons,
    List.cons_prefix_cons, List.append_assoc, List.singleton_append, closed_starts braces braces']
  simp

theorem replace_piece (braces : '}' ∉ name) (proper : piece.Proper) :
    replace (braced name) value (piece.text ++ rest) =
      (piece.fill name value).text ++ replace (braced name) value rest := by
  cases piece with
  | plain text => exact replace_append rfl proper
  | hole name' =>
      obtain ⟨marks, braces'⟩ := proper
      by_cases same : name' = name
      · rw [Piece.fill, if_pos same, same]
        exact replace_found (List.cons_ne_nil _ _)
      · rw [Piece.fill, if_neg same]
        have absent : ¬braced name <+: '$' :: ('{' :: (name' ++ ['}']) ++ rest) :=
          fun found => same ((braced_starts braces braces').mp found).symm
        have inside : '$' ∉ '{' :: (name' ++ ['}']) := by simp [marks]
        show replace (braced name) value ('$' :: ('{' :: (name' ++ ['}']) ++ rest)) = _
        have marked : braced name = '$' :: '{' :: (name ++ ['}']) := rfl
        rw [replace_cons absent, replace_append marked inside]
        rfl

theorem replace_template (braces : '}' ∉ name) (proper : template.Proper) :
    replace (braced name) value (written template) =
      written (template.map (Piece.fill name value)) := by
  induction template with
  | nil => rw [written, List.flatMap_nil, replace]; rfl
  | cons piece template ih =>
      obtain ⟨here, there⟩ := List.forall_mem_cons.mp proper
      simp only [written, List.map_cons, List.flatMap_cons] at ih ⊢
      rw [replace_piece braces here, ih there]

def given (values : List (List Char × List Char)) (name : List Char) : Option (List Char) :=
  (values.find? (·.1 = name)).map Prod.snd

theorem given_eq {values : List (List Char × List Char)} {value : List Char → Option (List Char)}
    (pairs : ∀ name text, (name, text) ∈ values ↔ value name = some text) :
    given values = value := by
  funext name
  cases found : values.find? (·.1 = name) with
  | none =>
      have absent (text : List Char) : value name ≠ some text := fun there =>
        by simpa using List.find?_eq_none.mp found _ ((pairs name text).mpr there)
      rw [given, found, Option.map_none, Option.eq_none_iff_forall_ne_some.mpr absent]
  | some e =>
      have same : e.1 = name := by simpa using List.find?_some found
      have there := (pairs e.1 e.2).mp (List.mem_of_find?_eq_some found)
      rw [given, found, Option.map_some, ← same, there]

def Piece.fillAll (value : List Char → Option (List Char)) : Piece → Piece
  | .plain text => .plain text
  | .hole name => (value name).elim (.hole name) .plain

theorem fillAll_cons (values : List (List Char × List Char)) (piece : Piece) :
    (piece.fill name value).fillAll (given values) =
      piece.fillAll (given ((name, value) :: values)) := by
  cases piece with
  | plain text => rfl
  | hole name' =>
      by_cases same : name' = name
      · simp [Piece.fill, Piece.fillAll, given, same]
      · simp [Piece.fill, Piece.fillAll, given, same, Ne.symm same]

theorem foldl_replace {values : List (List Char × List Char)}
    (braces : ∀ e ∈ values, '}' ∉ e.1) (proper : template.Proper)
    (unmarked : ∀ name, .hole name ∈ template → ∀ value, (name, value) ∈ values → '$' ∉ value) :
    values.foldl (fun text e => replace (braced e.1) e.2 text) (written template) =
      written (template.map (Piece.fillAll (given values))) := by
  induction values generalizing template with
  | nil =>
      have same : template.map (Piece.fillAll (given [])) = template := by
        refine (List.map_congr_left fun piece _ => ?_).trans (List.map_id _)
        cases piece <;> rfl
      rw [same]
      rfl
  | cons e values ih =>
      obtain ⟨name, value⟩ := e
      obtain ⟨here, there⟩ := List.forall_mem_cons.mp braces
      have filled {name' : List Char}
          (member : .hole name' ∈ template.map (Piece.fill name value)) :
          .hole name' ∈ template := by
        obtain ⟨piece, member, same⟩ := List.mem_map.mp member
        cases piece with
        | plain text => cases same
        | hole name'' =>
            simp only [Piece.fill] at same
            split at same <;> cases same
            exact member
      rw [List.foldl_cons, replace_template here proper, ih there ?_ ?_, List.map_map]
      · exact congrArg written (List.map_congr_left fun piece _ => fillAll_cons values piece)
      · intro piece' changed
        obtain ⟨piece, member, rfl⟩ := List.mem_map.mp changed
        cases piece with
        | plain text => exact proper _ member
        | hole name' =>
            by_cases same : name' = name
            · rw [Piece.fill, if_pos same]
              exact unmarked name' member value (same ▸ List.mem_cons_self)
            · rw [Piece.fill, if_neg same]
              exact proper _ member
      · exact fun name' member value' there =>
          unmarked name' (filled member) value' (List.mem_cons_of_mem _ there)

theorem unmarked_written {value : List Char → Option (List Char)} (proper : template.Proper)
    (filled : ∀ name, .hole name ∈ template → ∃ text, value name = some text ∧ '$' ∉ text) :
    '$' ∉ written (template.map (Piece.fillAll value)) := by
  rw [written, List.flatMap_map, List.mem_flatMap]
  rintro ⟨piece, there, mark⟩
  cases piece with
  | plain text => exact proper _ there mark
  | hole name =>
      obtain ⟨text, found, unmarked⟩ := filled name there
      rw [Piece.fillAll, found] at mark
      exact unmarked mark

end Replace
