import Regnant.Lib.CallTree
import Regnant.Lib.Machine

universe u

namespace CallTree
variable {C : Type u} {R : C → Type u} {E α β σ : Type u} (calls : C → C → Prop)
  (replies : (c c' : C) → Except E (R c) → Except E (R c') → Prop)

def Lockstep (Q : α → α → Prop) : CallTree C R E α → CallTree C R E α → Prop
  | ret a, ret a' => Q a a'
  | raise e, raise e' => e = e'
  | call c k, call c' k' => calls c c' ∧ ∀ r r', replies c c' r r' → Lockstep Q (k r) (k' r')
  | _, _ => False

variable {calls replies} {P : α → α → Prop} {Q : β → β → Prop} {t t' : CallTree C R E α}

theorem Lockstep.bind {f f' : α → CallTree C R E β} (lockstep : Lockstep calls replies P t t')
    (rest : ∀ a a', P a a' → Lockstep calls replies Q (f a) (f' a')) :
    Lockstep calls replies Q (t >>= f) (t' >>= f') := by
  induction t generalizing t' with
  | ret a =>
      cases t' with
      | ret a' => exact rest a a' lockstep
      | _ => exact lockstep.elim
  | raise e =>
      cases t' with
      | raise e' => exact lockstep
      | _ => exact lockstep.elim
  | call c k ih =>
      cases t' with
      | call c' k' => exact ⟨lockstep.1, fun r r' replied => ih r (lockstep.2 r r' replied)⟩
      | _ => exact lockstep.elim

def Ended (P : α → α → Prop) : Except E α → Except E α → Prop
  | .ok a, .ok a' => P a a'
  | .error e, .error e' => e = e'
  | _, _ => False

theorem Lockstep.attempt (lockstep : Lockstep calls replies P t t') :
    Lockstep calls replies (Ended P) t.attempt t'.attempt := by
  induction t generalizing t' with
  | ret a =>
      cases t' with
      | ret a' => exact lockstep
      | _ => exact lockstep.elim
  | raise e =>
      cases t' with
      | raise e' => exact lockstep
      | _ => exact lockstep.elim
  | call c k ih =>
      cases t' with
      | call c' k' => exact ⟨lockstep.1, fun r r' replied => ih r (lockstep.2 r r' replied)⟩
      | _ => exact lockstep.elim

theorem Lockstep.ofExcept {x x' : Except E α} (ended : Ended P x x') :
    Lockstep calls replies P (ofExcept x) (ofExcept x') := by
  cases x <;> cases x' <;> exact ended

theorem Lockstep.invoke {c : C} {P : R c → R c → Prop} (related : calls c c)
    (replied : ∀ r r', replies c c r r' → Ended P r r') :
    Lockstep calls replies P (CallTree.invoke c : CallTree C R E (R c)) (CallTree.invoke c) :=
  ⟨related, fun r r' here => .ofExcept (replied r r' here)⟩

theorem Lockstep.refl {S : C → Prop} (within : t.Calls S) (related : ∀ c, S c → calls c c)
    (same : ∀ c r r', S c → replies c c r r' → r = r') (refl : ∀ a, P a a) :
    Lockstep calls replies P t t := by
  induction t with
  | ret a => exact refl a
  | raise e => rfl
  | call c k ih =>
      refine ⟨related c within.1, fun r r' replied => ?_⟩
      obtain rfl := same c r r' within.1 replied
      exact ih r (within.2 r)

theorem Lockstep.advance {p p' : (c : C) → σ → Except E (R c) × σ} {S : σ → σ → Prop}
    (keeps : ∀ c c' s s', calls c c' → S s s' →
      replies c c' (p c s).1 (p' c' s').1 ∧ S (p c s).2 (p' c' s').2) {s s' : σ}
    (lockstep : Lockstep calls replies P t t') (related : S s s') :
    Lockstep calls replies P (t.advance p s).1 (t'.advance p' s').1 ∧
      S (t.advance p s).2 (t'.advance p' s').2 := by
  cases t with
  | ret a =>
      cases t' with
      | ret a' => exact ⟨lockstep, related⟩
      | _ => exact lockstep.elim
  | raise e =>
      cases t' with
      | raise e' => exact ⟨lockstep, related⟩
      | _ => exact lockstep.elim
  | call c k =>
      cases t' with
      | call c' k' =>
          obtain ⟨replied, after⟩ := keeps c c' s s' lockstep.1 related
          exact ⟨lockstep.2 _ _ replied, after⟩
      | _ => exact lockstep.elim

end CallTree

theorem Machine.exec_lockstep {σ τ ι κ : Type*} {step : σ → ι → σ} {step' : τ → κ → τ}
    {S : σ → τ → Prop} {ok : σ → ι × κ → Prop}
    (keeps : ∀ s t i, S s t → ok s i → S (step s i.1) (step' t i.2)) {s : σ} {t : τ}
    {labels : List (ι × κ)} (start : S s t)
    (allowed : Machine.Along (fun s i => step s i.1) ok s labels) :
    S (Machine.exec step s (labels.map (·.1))) (Machine.exec step' t (labels.map (·.2))) := by
  induction labels generalizing s t with
  | nil => exact start
  | cons i labels ih => exact ih (keeps s t i start allowed.1) allowed.2
