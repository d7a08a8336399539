import Regnant.Lib.CallTree

namespace Cell
open CallTree
variable {C κ : Type} {R : C → Type} {E α β σ : Type}

inductive Call (C κ : Type) where
  | out (c : C)
  | get
  | set (value : κ)

abbrev Call.Result (R : C → Type) : Call C κ → Type
  | .out c => R c
  | .get => κ
  | .set _ => Unit

def get : CallTree (Call C κ) (Call.Result R) E κ :=
  invoke (R := Call.Result R) Call.get

def set (value : κ) : CallTree (Call C κ) (Call.Result R) E Unit :=
  invoke (R := Call.Result R) (Call.set value)

def lift : CallTree C R E α → CallTree (Call C κ) (Call.Result R) E α
  | .ret a => .ret a
  | .raise e => .raise e
  | .call c k => .call (.out c) fun r => lift (k r)

def perform (p : (c : C) → σ → Except E (R c) × σ) :
    (c : Call C κ) → σ × κ → Except E (Call.Result R c) × (σ × κ)
  | .out c, (s, value) => ((p c s).1, ((p c s).2, value))
  | .get, (s, value) => (.ok value, (s, value))
  | .set value, (s, _) => (.ok (), (s, value))

variable (p : (c : C) → σ → Except E (R c) × σ) (s : σ) (value : κ)

@[simp] theorem run_get :
    run (perform p) (get : CallTree (Call C κ) (Call.Result R) E κ) (s, value) =
      (.ok value, (s, value)) := rfl

@[simp] theorem run_set (value' : κ) :
    run (perform p) (set value' : CallTree (Call C κ) (Call.Result R) E Unit) (s, value) =
      (.ok (), (s, value')) := rfl

@[simp] theorem run_lift (t : CallTree C R E α) :
    run (perform p) (lift t) (s, value) = ((run p t s).1, ((run p t s).2, value)) := by
  induction t generalizing s with
  | ret a => rfl
  | raise e => rfl
  | call c k ih => exact ih _ _

def outer (log : List ((c : Call C κ) × Except E (Call.Result R c))) :
    List ((c : C) × Except E (R c)) :=
  log.filterMap fun
    | ⟨.out c, reply⟩ => some ⟨c, reply⟩
    | _ => none

theorem outer_append (log log' : List ((c : Call C κ) × Except E (Call.Result R c))) :
    outer (log ++ log') = outer log ++ outer log' :=
  List.filterMap_append

@[simp] theorem outer_get :
    outer (log (perform p) (get : CallTree (Call C κ) (Call.Result R) E κ) (s, value)) = [] := rfl

@[simp] theorem outer_set (value' : κ) :
    outer (log (perform p) (set value' : CallTree (Call C κ) (Call.Result R) E Unit) (s, value)) =
      [] := rfl

@[simp] theorem outer_lift (t : CallTree C R E α) :
    outer (log (perform p) (lift t) (s, value)) = log p t s := by
  induction t generalizing s with
  | ret a => rfl
  | raise e => rfl
  | call c k ih => exact congrArg (_ :: ·) (ih _ _)

end Cell
