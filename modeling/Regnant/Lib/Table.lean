import Mathlib.Logic.Function.Basic

inductive RowChange (α : Type) where
  | keep
  | put (item : α)
  | update (f : α → α) (default : α)
  | delete

namespace RowChange
variable {α κ : Type} [DecidableEq κ] {row : Option α} {rows : κ → Option α} {key key' : κ}
  {change : RowChange α} {P : α → Prop}

def apply : RowChange α → Option α → Option α
  | keep, row => row
  | put item, row => row.or (some item)
  | update f default, row => some (f (row.getD default))
  | delete, _ => none

def onKey (change : RowChange α) (key key' : κ) : RowChange α :=
  if key = key' then change else keep

theorem apply_ne_none (other : change ≠ delete) (present : row ≠ none) :
    change.apply row ≠ none := by
  cases change with
  | keep => exact present
  | put item => simp [apply]
  | update f default => simp [apply]
  | delete => exact absurd rfl other

def Keeps (P : α → Prop) : RowChange α → Prop
  | update f _ => ∀ a, P a → P (f a)
  | delete => False
  | _ => True

theorem apply_keeps (keeps : change.Keeps P) (here : ∃ a, row = some a ∧ P a) :
    ∃ a, change.apply row = some a ∧ P a := by
  obtain ⟨a, rfl, holds⟩ := here
  cases change with
  | keep => exact ⟨a, rfl, holds⟩
  | put item => exact ⟨a, rfl, holds⟩
  | update f default => exact ⟨f a, rfl, keeps a holds⟩
  | delete => exact keeps.elim

def Writes (P : α → Prop) : RowChange α → Prop
  | put item => P item
  | update f default => P default ∧ ∀ a, P a → P (f a)
  | _ => True

theorem apply_writes (writes : change.Writes P) (all : ∀ a, row = some a → P a) {a : α}
    (written : change.apply row = some a) : P a := by
  cases change with
  | keep => exact all a written
  | put item =>
      cases row with
      | none => exact Option.some.inj written ▸ writes
      | some b => exact all a written
  | update f default =>
      obtain rfl := Option.some.inj written
      cases row with
      | none => exact writes.2 default writes.1
      | some b => exact writes.2 b (all b rfl)
  | delete => cases written

theorem Keeps.onKey (keeps : key = key' → change.Keeps P) : (change.onKey key key').Keeps P := by
  unfold RowChange.onKey
  split
  next same => exact keeps same
  next => trivial

theorem Writes.onKey (writes : change.Writes P) : (change.onKey key key').Writes P := by
  unfold RowChange.onKey
  split
  next => exact writes
  next => trivial

theorem writes_onKey (writes : key = key' → change.Writes P) :
    (change.onKey key key').Writes P := by
  unfold RowChange.onKey
  split
  next same => exact writes same
  next => trivial

theorem onKey_eq_delete (deletes : change.onKey key key' = delete) :
    key = key' ∧ change = delete := by
  unfold RowChange.onKey at deletes
  split at deletes
  next same => exact ⟨same, deletes⟩
  next => cases deletes

theorem onKey_apply (change : RowChange α) :
    (change.onKey key key').apply (rows key') =
      Function.update rows key (change.apply (rows key)) key' := by
  by_cases same : key = key'
  · subst same
    rw [onKey, if_pos rfl, Function.update_self]
  · rw [onKey, if_neg same, Function.update_of_ne (Ne.symm same)]
    rfl

theorem onKey_put_present {item item' : α} (present : rows key = some item') :
    ((put item).onKey key key').apply (rows key') = rows key' := by
  have kept : (put item).apply (rows key) = rows key := by
    rw [present]
    rfl
  rw [onKey_apply, kept, Function.update_eq_self]

theorem onKey_put_absent {item : α} (absent : rows key = none) :
    ((put item).onKey key key').apply (rows key') = Function.update rows key (some item) key' := by
  rw [onKey_apply, absent]
  rfl

end RowChange
