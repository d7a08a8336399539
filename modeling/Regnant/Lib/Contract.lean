import Regnant.Lib.CallTree

universe u

/-- The calls and values that are allowed, and the replies that are promised. -/
structure Contract (C : Type u) (R : C → Type u) (E : Type u) where
  allows : C → Prop
  promises : (c : C) → Except E (R c) → Prop

namespace CallTree
variable {C : Type u} {R : C → Type u} {E α β σ : Type u} {contract : Contract C R E}
  {Q : α → Prop} {Q' : β → Prop}

def Meets (contract : Contract C R E) (Q : α → Prop) : CallTree C R E α → Prop
  | ret a => Q a
  | raise _ => True
  | call c k => contract.allows c ∧ ∀ r, contract.promises c r → Meets contract Q (k r)

theorem Meets.bind {t : CallTree C R E α} {f : α → CallTree C R E β} (meets : t.Meets contract Q)
    (rest : ∀ a, Q a → (f a).Meets contract Q') : (t >>= f).Meets contract Q' := by
  induction t with
  | ret a => exact rest a meets
  | raise e => trivial
  | call c k ih => exact ⟨meets.1, fun r promised => ih r (meets.2 r promised)⟩

theorem Meets.attempt {t : CallTree C R E α} (meets : t.Meets contract Q) :
    t.attempt.Meets contract fun x => ∀ a, x = .ok a → Q a := by
  induction t with
  | ret a =>
      rintro _ ⟨⟩
      exact meets
  | raise e =>
      rintro _ ⟨⟩
  | call c k ih => exact ⟨meets.1, fun r promised => ih r (meets.2 r promised)⟩

theorem meets_ofExcept {x : Except E α} (returned : ∀ a, x = .ok a → Q a) :
    (ofExcept x : CallTree C R E α).Meets contract Q := by
  cases x with
  | ok a => exact returned a rfl
  | error e => trivial

theorem meets_invoke {c : C} {Q : R c → Prop} (allowed : contract.allows c)
    (replied : ∀ a, contract.promises c (.ok a) → Q a) :
    (invoke c : CallTree C R E (R c)).Meets contract Q :=
  ⟨allowed, fun _ promised => meets_ofExcept fun a same => replied a (same ▸ promised)⟩

variable {p : (c : C) → σ → Except E (R c) × σ}

theorem Meets.advance {t : CallTree C R E α} (meets : t.Meets contract Q) {s : σ}
    (kept : ∀ c, contract.allows c → contract.promises c (p c s).1) :
    (t.advance p s).1.Meets contract Q := by
  cases t with
  | ret a => exact meets
  | raise e => exact meets
  | call c k => exact meets.2 _ (kept c meets.1)

theorem Meets.advance_keeps {I : σ → Prop} {t : CallTree C R E α} (meets : t.Meets contract Q)
    (keeps : ∀ c s, contract.allows c → I s → I (p c s).2) {s : σ} (h : I s) :
    I (t.advance p s).2 := by
  cases t with
  | ret a => exact h
  | raise e => exact h
  | call c k => exact keeps c s meets.1 h

end CallTree
