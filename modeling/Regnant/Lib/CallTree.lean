import Mathlib.Logic.Basic

/-!
# Call trees

Programs that act on their surroundings by calls only. A call is answered with a result of its own
type or with an exception, so one program can be run without faults, with a fault at a chosen call,
or one call at a time among other programs.
-/

universe u

/-- A program over the calls `C`, where `c` is answered by a value of `R c` or by an exception. -/
inductive CallTree (C : Type u) (R : C → Type u) (E : Type u) (α : Type u) : Type u where
  | ret (a : α)
  | raise (e : E)
  | call (c : C) (k : Except E (R c) → CallTree C R E α)

namespace CallTree
variable {C : Type u} {R : C → Type u} {E α β σ : Type u}

def bind : CallTree C R E α → (α → CallTree C R E β) → CallTree C R E β
  | ret a, f => f a
  | raise e, _ => raise e
  | call c k, f => call c fun r => (k r).bind f

instance : Monad (CallTree C R E) where
  pure := ret
  bind := bind

def ofExcept : Except E α → CallTree C R E α
  | .ok a => ret a
  | .error e => raise e

def invoke (c : C) : CallTree C R E (R c) :=
  call c ofExcept

@[simp] def attempt : CallTree C R E α → CallTree C R E (Except E α)
  | ret a => ret (.ok a)
  | raise e => ret (.error e)
  | call c k => call c fun r => (k r).attempt

@[simp] theorem ofExcept_ok (a : α) : (ofExcept (.ok a) : CallTree C R E α) = ret a := rfl

@[simp] theorem ofExcept_error (e : E) : (ofExcept (.error e) : CallTree C R E α) = raise e := rfl

@[simp] theorem pure_eq (a : α) : (pure a : CallTree C R E α) = ret a := rfl

@[simp] theorem ret_bind (a : α) (f : α → CallTree C R E β) : (ret a >>= f) = f a := rfl

@[simp] theorem raise_bind (e : E) (f : α → CallTree C R E β) : (raise e >>= f) = raise e := rfl

@[simp] theorem call_bind (c : C) (k : Except E (R c) → CallTree C R E α)
    (f : α → CallTree C R E β) : (call c k >>= f) = call c fun r => k r >>= f := rfl

def run (p : (c : C) → σ → Except E (R c) × σ) : CallTree C R E α → σ → Except E α × σ
  | ret a, s => (.ok a, s)
  | raise e, s => (.error e, s)
  | call c k, s => run p (k (p c s).1) (p c s).2

variable (p : (c : C) → σ → Except E (R c) × σ)

@[simp] theorem run_ret (a : α) (s : σ) : run p (ret a) s = (.ok a, s) := rfl

@[simp] theorem run_raise (e : E) (s : σ) :
    run p (raise e : CallTree C R E α) s = (.error e, s) := rfl

@[simp] theorem run_call (c : C) (k : Except E (R c) → CallTree C R E α) (s : σ) :
    run p (call c k) s = run p (k (p c s).1) (p c s).2 := rfl

@[simp] theorem run_ofExcept (x : Except E α) (s : σ) : run p (ofExcept x) s = (x, s) := by
  cases x <;> rfl

@[simp] theorem run_invoke (c : C) (s : σ) : run p (invoke c) s = p c s := by
  rw [invoke, run, run_ofExcept]

@[simp] theorem run_bind (t : CallTree C R E α) (f : α → CallTree C R E β) (s : σ) :
    run p (t >>= f) s =
      match run p t s with
      | (.ok a, s') => run p (f a) s'
      | (.error e, s') => (.error e, s') := by
  induction t generalizing s with
  | ret a => rfl
  | raise e => rfl
  | call c k ih => exact ih (p c s).1 (p c s).2

@[simp] theorem run_attempt (t : CallTree C R E α) (s : σ) :
    run p t.attempt s = (.ok (run p t s).1, (run p t s).2) := by
  induction t generalizing s with
  | ret a => rfl
  | raise e => rfl
  | call c k ih => exact ih (p c s).1 (p c s).2

/-! ## Running with one fault -/

def callsMade : CallTree C R E α → σ → Nat
  | ret _, _ => 0
  | raise _, _ => 0
  | call c k, s => callsMade (k (p c s).1) (p c s).2 + 1

/-- The run in which call number `n` raises `e`, after taking effect or without. -/
@[simp] def runCut (e : E) (effect : Bool) : Nat → CallTree C R E α → σ → Except E α × σ
  | _, ret a, s => (.ok a, s)
  | _, raise e', s => (.error e', s)
  | 0, call c k, s => run p (k (.error e)) (if effect then (p c s).2 else s)
  | n + 1, call c k, s => runCut e effect n (k (p c s).1) (p c s).2

def killed : Nat → CallTree C R E α → σ → σ
  | n + 1, call c k, s => killed n (k (p c s).1) (p c s).2
  | _, _, s => s

@[simp] theorem killed_zero (t : CallTree C R E α) (s : σ) : killed p 0 t s = s := by
  cases t <;> rfl

@[simp] theorem killed_ret (n : Nat) (a : α) (s : σ) : killed p n (ret a) s = s := by
  cases n <;> rfl

@[simp] theorem killed_raise (n : Nat) (e : E) (s : σ) :
    killed p n (raise e : CallTree C R E α) s = s := by
  cases n <;> rfl

@[simp] theorem killed_call (n : Nat) (c : C) (k : Except E (R c) → CallTree C R E α) (s : σ) :
    killed p (n + 1) (call c k) s = killed p n (k (p c s).1) (p c s).2 := rfl

theorem run_after_killed {δ : Type*} (t : δ → CallTree C R E α)
    {same : Except E α × σ → Except E α × σ → Prop}
    (trans : ∀ x y z, same x y → same y z → same x z)
    (once : ∀ n d d' d'' s, same (run p (t d'') (killed p n (t d) s)) (run p (t d') s))
    (kills : List (Nat × δ)) (d d' : δ) (s : σ) :
    same (run p (t d) (kills.foldl (fun s kill => killed p kill.1 (t kill.2) s) s))
      (run p (t d') s) := by
  induction kills generalizing s with
  | nil =>
      have unkilled := once 0 d d' d s
      rwa [killed_zero] at unkilled
  | cons kill kills ih => exact trans _ _ _ (ih _) (once kill.1 kill.2 d' d' s)

def log : CallTree C R E α → σ → List ((c : C) × Except E (R c))
  | ret _, _ => []
  | raise _, _ => []
  | call c k, s => ⟨c, (p c s).1⟩ :: log (k (p c s).1) (p c s).2

@[simp] theorem log_ret (a : α) (s : σ) : log p (ret a : CallTree C R E α) s = [] := rfl

@[simp] theorem log_raise (e : E) (s : σ) : log p (raise e : CallTree C R E α) s = [] := rfl

@[simp] theorem log_call (c : C) (k : Except E (R c) → CallTree C R E α) (s : σ) :
    log p (call c k) s = ⟨c, (p c s).1⟩ :: log p (k (p c s).1) (p c s).2 := rfl

@[simp] theorem log_ofExcept (x : Except E α) (s : σ) :
    log p (ofExcept x : CallTree C R E α) s = [] := by
  cases x <;> rfl

@[simp] theorem log_invoke (c : C) (s : σ) :
    log p (invoke c : CallTree C R E (R c)) s = [⟨c, (p c s).1⟩] := by
  rw [invoke, log, log_ofExcept]

@[simp] theorem log_bind (t : CallTree C R E α) (f : α → CallTree C R E β) (s : σ) :
    log p (t >>= f) s = log p t s ++
      match run p t s with
      | (.ok a, s') => log p (f a) s'
      | (.error _, _) => [] := by
  induction t generalizing s with
  | ret a => rfl
  | raise e => rfl
  | call c k ih => exact congrArg (_ :: ·) (ih (p c s).1 (p c s).2)

theorem run_bind_eq_ok {t : CallTree C R E α} {f : α → CallTree C R E β} {s s' : σ} {b : β} :
    run p (t >>= f) s = (.ok b, s') ↔
      ∃ a s₁, run p t s = (.ok a, s₁) ∧ run p (f a) s₁ = (.ok b, s') := by
  rw [run_bind]
  constructor
  · intro ran
    cases first : run p t s with
    | mk result s₁ =>
        rw [first] at ran
        cases result with
        | error e => cases ran
        | ok a => exact ⟨a, s₁, rfl, ran⟩
  · rintro ⟨a, s₁, first, ran⟩
    rw [first]
    exact ran

theorem run_bind_ok {t : CallTree C R E α} {f : α → CallTree C R E β} {s : σ} {b : β}
    (ran : (run p (t >>= f) s).1 = .ok b) :
    ∃ a s', run p t s = (.ok a, s') ∧ (run p (f a) s').1 = .ok b ∧
      log p (t >>= f) s = log p t s ++ log p (f a) s' := by
  have ran : run p (t >>= f) s = (.ok b, (run p (t >>= f) s).2) := Prod.ext ran rfl
  obtain ⟨a, s', first, ran⟩ := (run_bind_eq_ok p).mp ran
  exact ⟨a, s', first, congrArg Prod.fst ran, by rw [log_bind, first]⟩

theorem run_ofExcept_bind_ok {x : Except E α} {f : α → CallTree C R E β} {s : σ} {b : β}
    (ran : (run p (ofExcept x >>= f) s).1 = .ok b) :
    ∃ a, x = .ok a ∧ (run p (f a) s).1 = .ok b ∧
      log p (ofExcept x >>= f) s = log p (f a) s := by
  obtain ⟨a, s', first, ran, split⟩ := run_bind_ok p ran
  rw [run_ofExcept, Prod.mk.injEq] at first
  obtain ⟨rfl, rfl⟩ := first
  exact ⟨a, rfl, ran, split⟩

theorem run_invoke_ok {c : C} {s : σ} {r : R c}
    (ran : (run p (invoke c : CallTree C R E (R c)) s).1 = .ok r) :
    log p (invoke c : CallTree C R E (R c)) s = [⟨c, .ok r⟩] := by
  rw [run_invoke] at ran
  rw [log_invoke, ran]

theorem run_invoke_bind_ok {c : C} {f : R c → CallTree C R E β} {s : σ} {b : β}
    (ran : (run p (invoke c >>= f) s).1 = .ok b) :
    ∃ r, (p c s).1 = .ok r ∧ (run p (f r) (p c s).2).1 = .ok b ∧
      log p (invoke c >>= f) s = ⟨c, .ok r⟩ :: log p (f r) (p c s).2 := by
  obtain ⟨r, s', first, ran, split⟩ := run_bind_ok p ran
  rw [run_invoke] at first
  rw [log_invoke, first] at split
  rw [first]
  exact ⟨r, rfl, ran, split⟩

@[simp] theorem log_attempt (t : CallTree C R E α) (s : σ) : log p t.attempt s = log p t s := by
  induction t generalizing s with
  | ret a => rfl
  | raise e => rfl
  | call c k ih => exact congrArg (_ :: ·) (ih (p c s).1 (p c s).2)

/-! ## Running one call at a time -/

def next : CallTree C R E α → Option C
  | call c _ => some c
  | _ => none

def advance : CallTree C R E α → σ → CallTree C R E α × σ
  | call c k, s => (k (p c s).1, (p c s).2)
  | t, s => (t, s)

/-! ## Properties of every call -/

/-- Every call node of the program, whatever the replies before it, satisfies `P`. -/
def Every (P : (c : C) → (Except E (R c) → CallTree C R E α) → Prop) : CallTree C R E α → Prop
  | ret _ => True
  | raise _ => True
  | call c k => P c k ∧ ∀ r, Every P (k r)

abbrev Calls (P : C → Prop) : CallTree C R E α → Prop :=
  Every fun c _ => P c

variable {P : C → Prop}

theorem Every.mono {P Q : (c : C) → (Except E (R c) → CallTree C R E α) → Prop}
    {t : CallTree C R E α} (every : t.Every P) (weaker : ∀ c k, P c k → Q c k) : t.Every Q := by
  induction t with
  | ret a => trivial
  | raise e => trivial
  | call c k ih => exact ⟨weaker c k every.1, fun r => ih r (every.2 r)⟩

theorem Calls.mono {Q : C → Prop} {t : CallTree C R E α} (ht : t.Calls P)
    (weaker : ∀ c, P c → Q c) : t.Calls Q :=
  Every.mono ht fun c _ => weaker c

theorem Calls.and {Q : C → Prop} {t : CallTree C R E α} (hp : t.Calls P) (hq : t.Calls Q) :
    t.Calls fun c => P c ∧ Q c := by
  induction t with
  | ret a => trivial
  | raise e => trivial
  | call c k ih => exact ⟨⟨hp.1, hq.1⟩, fun r => ih r (hp.2 r) (hq.2 r)⟩

theorem Calls.of_forall (all : ∀ c, P c) (t : CallTree C R E α) : t.Calls P := by
  induction t with
  | ret a => trivial
  | raise e => trivial
  | call c k ih => exact ⟨all c, ih⟩

theorem Calls.next {t : CallTree C R E α} {c : C} (calls : t.Calls P) (next : t.next = some c) :
    P c := by
  cases t with
  | ret a => cases next
  | raise e => cases next
  | call c' k => exact Option.some.inj next ▸ calls.1

theorem Every.advance {Q : (c : C) → (Except E (R c) → CallTree C R E α) → Prop}
    {t : CallTree C R E α} (every : t.Every Q) (s : σ) : (t.advance p s).1.Every Q := by
  cases t with
  | ret a => exact every
  | raise e => exact every
  | call c k => exact every.2 _

theorem calls_bind {t : CallTree C R E α} {f : α → CallTree C R E β} (ht : t.Calls P)
    (hf : ∀ a, (f a).Calls P) : (t >>= f).Calls P := by
  induction t with
  | ret a => exact hf a
  | raise e => trivial
  | call c k ih => exact ⟨ht.1, fun r => ih r (ht.2 r)⟩

theorem calls_attempt {t : CallTree C R E α} (ht : t.Calls P) : t.attempt.Calls P := by
  induction t with
  | ret a => trivial
  | raise e => trivial
  | call c k ih => exact ⟨ht.1, fun r => ih r (ht.2 r)⟩

theorem calls_ofExcept (x : Except E α) : (ofExcept x : CallTree C R E α).Calls P := by
  cases x <;> trivial

theorem calls_invoke {c : C} (h : P c) : (invoke c : CallTree C R E (R c)).Calls P :=
  ⟨h, calls_ofExcept⟩

theorem log_calls {t : CallTree C R E α} (calls : t.Calls P) {s : σ} :
    ∀ entry ∈ log p t s, P entry.1 := by
  induction t generalizing s with
  | ret a => simp
  | raise e => simp
  | call c k ih => simpa using ⟨calls.1, ih _ (calls.2 _)⟩

theorem run_congr {q : (c : C) → σ → Except E (R c) × σ} {t : CallTree C R E α}
    (calls : t.Calls P) (same : ∀ c s, P c → p c s = q c s) (s : σ) : run p t s = run q t s := by
  induction t generalizing s with
  | ret a => rfl
  | raise e => rfl
  | call c k ih =>
      rw [run_call, run_call, same c s calls.1]
      exact ih _ (calls.2 _) _

theorem run_bind_congr {q : (c : C) → σ → Except E (R c) × σ} {t : CallTree C R E α}
    {f g : α → CallTree C R E β} (calls : t.Calls P) (same : ∀ c s, P c → p c s = q c s) {s : σ}
    (rest : ∀ a s', run q t s = (.ok a, s') → run p (f a) s' = run q (g a) s') :
    run p (t >>= f) s = run q (t >>= g) s := by
  rw [run_bind, run_bind, run_congr p calls same]
  cases ran : run q t s with
  | mk result s' =>
      cases result with
      | ok a => exact rest a s' ran
      | error e => rfl

theorem run_keeps {I : σ → Prop} {t : CallTree C R E α} (calls : t.Calls P)
    (keeps : ∀ c s, P c → I s → I (p c s).2) {s : σ} (h : I s) : I (run p t s).2 := by
  induction t generalizing s with
  | ret a => exact h
  | raise e => exact h
  | call c k ih => exact ih _ (calls.2 _) (keeps c s calls.1 h)

theorem advance_keeps {I : σ → Prop} {t : CallTree C R E α} (calls : t.Calls P)
    (keeps : ∀ c s, P c → I s → I (p c s).2) {s : σ} (h : I s) : I (t.advance p s).2 := by
  cases t with
  | ret a => exact h
  | raise e => exact h
  | call c k => exact keeps c s calls.1 h

theorem runCut_keeps {I : σ → Prop} {t : CallTree C R E α} (calls : t.Calls P)
    (keeps : ∀ c s, P c → I s → I (p c s).2) {e : E} {effect : Bool} {n : Nat} {s : σ} (h : I s) :
    I (runCut p e effect n t s).2 := by
  induction t generalizing n s with
  | ret a => cases n <;> exact h
  | raise e => cases n <;> exact h
  | call c k ih =>
      cases n with
      | zero =>
          refine run_keeps p (calls.2 _) keeps ?_
          cases effect with
          | true => exact keeps c s calls.1 h
          | false => exact h
      | succ n => exact ih _ (calls.2 _) (keeps c s calls.1 h)

/-! ## Properties of what is returned -/

section Returns
variable (reply harmless : (c : C) → Except E (R c) → Prop) (Q : α → Prop)

/-- What the program returns satisfies `Q` when its calls are replied to as `reply` allows. -/
def Returns : CallTree C R E α → Prop
  | ret a => Q a
  | raise _ => True
  | call c k => ∀ r, reply c r → Returns (k r)

/-- The program returns values outside `Q` only while all replies were harmless. -/
def Guarded : CallTree C R E α → Prop
  | ret _ => True
  | raise _ => True
  | call c k => ∀ r, reply c r →
      (harmless c r → Guarded (k r)) ∧ (¬harmless c r → Returns reply Q (k r))

variable {reply harmless Q}

theorem Guarded.of_next {t : CallTree C R E α} (ended : t.next = none) :
    t.Guarded reply harmless Q := by
  cases t with
  | ret a => trivial
  | raise e => trivial
  | call c k => cases ended

theorem Guarded.of_calls {t : CallTree C R E α} (calls : t.Calls P)
    (always : ∀ c r, P c → reply c r → harmless c r) : t.Guarded reply harmless Q := by
  induction t with
  | ret a => trivial
  | raise e => trivial
  | call c k ih =>
      intro r replied
      exact ⟨fun _ => ih r (calls.2 r), fun harm => absurd (always c r calls.1 replied) harm⟩

theorem Returns.advance {t : CallTree C R E α} (returns : t.Returns reply Q) {s : σ}
    (replies : ∀ c, reply c (p c s).1) : (t.advance p s).1.Returns reply Q := by
  cases t with
  | ret a => exact returns
  | raise e => exact returns
  | call c k => exact returns _ (replies c)

theorem Returns.run {t : CallTree C R E α} (returns : t.Returns reply Q) {s : σ} {a : α}
    (replies : ∀ c s, reply c (p c s).1) (ran : (run p t s).1 = .ok a) : Q a := by
  induction t generalizing s with
  | ret b =>
      obtain rfl := Except.ok.inj ran
      exact returns
  | raise e => cases ran
  | call c k ih => exact ih _ (returns _ (replies c s)) ran

theorem Returns.runCut {t : CallTree C R E α} (returns : t.Returns reply Q) {e : E} {effect : Bool}
    {n : Nat} {s : σ} {a : α} (replies : ∀ c s, reply c (p c s).1)
    (faulty : ∀ c, reply c (.error e))
    (ran : (runCut p e effect n t s).1 = .ok a) : Q a := by
  induction t generalizing n s with
  | ret b =>
      cases n <;>
        · obtain rfl := Except.ok.inj ran
          exact returns
  | raise e' => cases n <;> cases ran
  | call c k ih =>
      cases n with
      | zero => exact (returns _ (faulty c)).run p replies ran
      | succ n => exact ih _ (returns _ (replies c s)) ran

theorem Guarded.run {t : CallTree C R E α} (guarded : t.Guarded reply harmless Q) {s : σ} {a : α}
    (replies : ∀ c s, reply c (p c s).1) (still : ∀ c s, harmless c (p c s).1 → (p c s).2 = s)
    (ran : (run p t s).1 = .ok a) : Q a ∨ (run p t s).2 = s := by
  induction t generalizing s with
  | ret b => exact .inr rfl
  | raise e => cases ran
  | call c k ih =>
      obtain ⟨goes, commits⟩ := guarded _ (replies c s)
      by_cases harm : harmless c (p c s).1
      · simpa only [run_call, still c s harm] using ih _ (goes harm) ran
      · exact .inl ((commits harm).run p replies ran)

theorem Guarded.runCut {t : CallTree C R E α} (guarded : t.Guarded reply harmless Q) {e : E}
    {effect : Bool} {n : Nat} {s : σ} {a : α} (replies : ∀ c s, reply c (p c s).1)
    (faulty : ∀ c, reply c (.error e)) (still : ∀ c s, harmless c (p c s).1 → (p c s).2 = s)
    (stillCut : ∀ c s, harmless c (.error e) → (p c s).2 = s)
    (ran : (runCut p e effect n t s).1 = .ok a) : Q a ∨ (runCut p e effect n t s).2 = s := by
  induction t generalizing n s with
  | ret b => cases n <;> exact .inr rfl
  | raise e' => cases n <;> cases ran
  | call c k ih =>
      cases n with
      | zero =>
          obtain ⟨goes, commits⟩ := guarded _ (faulty c)
          by_cases harm : harmless c (.error e)
          · have same : (if effect then (p c s).2 else s) = s := by
              split
              next => exact stillCut c s harm
              next => rfl
            simp only [CallTree.runCut, same] at ran ⊢
            exact (goes harm).run p replies still ran
          · exact .inl ((commits harm).run p replies ran)
      | succ n =>
          obtain ⟨goes, commits⟩ := guarded _ (replies c s)
          by_cases harm : harmless c (p c s).1
          · simpa only [CallTree.runCut, still c s harm] using ih _ (goes harm) ran
          · exact .inl ((commits harm).runCut p replies faulty ran)

end Returns

end CallTree
