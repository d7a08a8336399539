import Mathlib.Logic.Function.Basic

namespace Restriction
open Function (update)

variable {κ α : Type*} (p : κ → Prop) [DecidablePred p]

def restrict (f : κ → Option α) (a : κ) : Option α :=
  if p a then f a else none

variable {p}

theorem restrict_apply {a : κ} (kept : p a) (f : κ → Option α) : restrict p f a = f a :=
  if_pos kept

variable [DecidableEq κ]

theorem restrict_update {a : κ} (kept : p a) (f : κ → Option α) (x : Option α) :
    restrict p (update f a x) = update (restrict p f) a x := by
  funext b
  by_cases same : b = a
  · subst same
    rw [restrict_apply kept, Function.update_self, Function.update_self]
  · simp only [restrict, Function.update_of_ne same]

theorem restrict_update_other {a : κ} (dropped : ¬p a) (f : κ → Option α) (x : Option α) :
    restrict p (update f a x) = restrict p f := by
  funext b
  by_cases kept : p b
  · have other : b ≠ a := fun same => dropped (same ▸ kept)
    rw [restrict_apply kept, restrict_apply kept, Function.update_of_ne other]
  · rw [restrict, restrict, if_neg kept, if_neg kept]

section Lists
variable {β : Type*} {q r : β → Bool}

theorem find_filter (kept : ∀ b, q b = true → r b = true) (l : List β) :
    (l.filter r).find? q = l.find? q := by
  rw [List.find?_filter]
  congr 1
  funext b
  cases member : q b with
  | false => simp
  | true => simp [kept b member]

theorem filter_eraseP (kept : ∀ b, q b = true → r b = true) (l : List β) :
    (l.eraseP q).filter r = (l.filter r).eraseP q := by
  rw [List.eraseP_filter]
  congr 2
  funext b
  cases member : q b with
  | false => simp
  | true => simp [kept b member]

theorem filter_eraseP_other (dropped : ∀ b, q b = true → r b = false) (l : List β) :
    (l.eraseP q).filter r = l.filter r := by
  induction l with
  | nil => rfl
  | cons b l ih =>
      cases member : q b with
      | true => simp [member, dropped b member]
      | false => simp [member, List.filter_cons, ih]

end Lists

end Restriction
