import Mathlib.Data.List.Basic

namespace Machine

variable {σ τ ι : Type*} (step : σ → ι → σ)

abbrev exec (s : σ) (labels : List ι) : σ :=
  labels.foldl step s

/-- Every label of the run is taken in a state that allows it. -/
def Along (ok : σ → ι → Prop) : σ → List ι → Prop
  | _, [] => True
  | s, i :: labels => ok s i ∧ Along ok (step s i) labels

instance Along.decidable (ok : σ → ι → Prop) [∀ s i, Decidable (ok s i)] :
    ∀ s labels, Decidable (Along step ok s labels)
  | _, [] => inferInstanceAs (Decidable True)
  | s, i :: labels =>
      have := Along.decidable ok (step s i) labels
      inferInstanceAs (Decidable (ok s i ∧ Along step ok (step s i) labels))

theorem Along.true (s : σ) (labels : List ι) : Along step (fun _ _ => True) s labels := by
  induction labels generalizing s with
  | nil => trivial
  | cons i labels ih => exact ⟨trivial, ih _⟩

theorem Along.and {ok ok' : σ → ι → Prop} {s : σ} {labels : List ι}
    (here : Along step ok s labels) (too : Along step ok' s labels) :
    Along step (fun s i => ok s i ∧ ok' s i) s labels := by
  induction labels generalizing s with
  | nil => trivial
  | cons i labels ih => exact ⟨⟨here.1, too.1⟩, ih here.2 too.2⟩

theorem Along.mono {ok ok' : σ → ι → Prop} (weaker : ∀ s i, ok s i → ok' s i) {s : σ}
    {labels : List ι} (along : Along step ok s labels) : Along step ok' s labels := by
  induction labels generalizing s with
  | nil => trivial
  | cons i labels ih => exact ⟨weaker s i along.1, ih along.2⟩

theorem Along.and_forall {ok : σ → ι → Prop} {P : ι → Prop} {s : σ} {labels : List ι}
    (allowed : Along step ok s labels) (all : ∀ i ∈ labels, P i) :
    Along step (fun s i => ok s i ∧ P i) s labels := by
  induction labels generalizing s with
  | nil => trivial
  | cons i labels ih =>
      obtain ⟨here, rest⟩ := List.forall_mem_cons.mp all
      exact ⟨⟨allowed.1, here⟩, ih allowed.2 rest⟩

theorem along_append {ok : σ → ι → Prop} {s : σ} {labels labels' : List ι} :
    Along step ok s (labels ++ labels') ↔
      Along step ok s labels ∧ Along step ok (exec step s labels) labels' := by
  induction labels generalizing s with
  | nil => simp [Along, exec]
  | cons i labels ih => simp [Along, ih, exec, and_assoc]

theorem along_forall {P : ι → Prop} {s : σ} {labels : List ι} :
    Along step (fun _ i => P i) s labels ↔ ∀ i ∈ labels, P i := by
  induction labels generalizing s with
  | nil => simp [Along]
  | cons i labels ih => simp [Along, ih]

theorem along_congr {ok ok' : σ → ι → Prop} {I : σ → Prop}
    (same : ∀ s i, I s → (ok s i ↔ ok' s i)) (keeps : ∀ s i, I s → ok' s i → I (step s i)) {s : σ}
    {labels : List ι} (start : I s) : Along step ok s labels ↔ Along step ok' s labels := by
  induction labels generalizing s with
  | nil => exact Iff.rfl
  | cons i labels ih =>
      rw [Along, Along, same s i start]
      exact and_congr_right fun here => ih (keeps s i start here)

theorem exec_invariant {ok : σ → ι → Prop} {I : σ → Prop}
    (keeps : ∀ s i, I s → ok s i → I (step s i)) {s : σ} {labels : List ι} (start : I s)
    (allowed : Along step ok s labels) : I (exec step s labels) := by
  induction labels generalizing s with
  | nil => exact start
  | cons i labels ih => exact ih (keeps s i start allowed.1) allowed.2

theorem exec_congr {step' : σ → ι → σ} {ok : ι → Prop} {I : σ → Prop}
    (agree : ∀ s i, I s → ok i → step' s i = step s i ∧ I (step s i)) {s : σ} {labels : List ι}
    (start : I s) (allowed : ∀ i ∈ labels, ok i) : exec step' s labels = exec step s labels := by
  induction labels generalizing s with
  | nil => rfl
  | cons i labels ih =>
      obtain ⟨here, rest⟩ := List.forall_mem_cons.mp allowed
      obtain ⟨same, next⟩ := agree s i start here
      simp only [exec, List.foldl_cons, same] at ih ⊢
      exact ih next rest

theorem Along.of_final {P : σ → Prop} (back : ∀ s i, P (step s i) → P s) {s : σ}
    {labels : List ι} (final : P (exec step s labels)) :
    P s ∧ Along step (fun s i => P (step s i)) s labels := by
  induction labels generalizing s with
  | nil => exact ⟨final, trivial⟩
  | cons i labels ih =>
      obtain ⟨next, rest⟩ := ih final
      exact ⟨back s i next, next, rest⟩

/-- In a permitted run, an invariant that holds after a step exactly when the step was allowed holds
all along the run exactly when the whole run was allowed. -/
theorem invariant_iff_along_of {ok permitted : σ → ι → Prop} {I J : σ → Prop}
    (aux : ∀ s i, J s → permitted s i → J (step s i))
    (exact : ∀ s i, J s → permitted s i → I s → (I (step s i) ↔ ok s i)) {s : σ}
    {labels : List ι} (run : Along step permitted s labels) (startAux : J s) (start : I s) :
    (∀ before, before <+: labels → I (exec step s before)) ↔ Along step ok s labels := by
  induction labels generalizing s with
  | nil => simp [Along, start]
  | cons i labels ih =>
      have aux' := aux s i startAux run.1
      -- the first step alone decides whether the invariant holds after it
      constructor
      · intro holds
        have first : I (step s i) := holds [i] (by simp)
        refine ⟨(exact s i startAux run.1 start).mp first, (ih run.2 aux' first).mp ?_⟩
        intro before pre
        exact holds (i :: before) (by simpa using pre)
      · rintro ⟨now, later⟩ before pre
        have first := (exact s i startAux run.1 start).mpr now
        cases before with
        | nil => exact start
        | cons j before =>
            obtain ⟨same, rest⟩ := List.cons_prefix_cons.mp pre
            subst same
            exact (ih run.2 aux' first).mpr later before rest

theorem invariant_iff_along {ok : σ → ι → Prop} {I J : σ → Prop}
    (aux : ∀ s i, J s → J (step s i))
    (exact : ∀ s i, J s → I s → (I (step s i) ↔ ok s i)) {s : σ} {labels : List ι}
    (startAux : J s) (start : I s) :
    (∀ before, before <+: labels → I (exec step s before)) ↔ Along step ok s labels :=
  invariant_iff_along_of step (fun s i here _ => aux s i here)
    (fun s i here _ => exact s i here) (.true step s labels) startAux start

def Unless (P : σ → Prop) (Q : σ → ι → Prop) : σ → List ι → Prop
  | s, [] => P s
  | s, i :: labels => P s ∧ (Q s i ∨ Unless P Q (step s i) labels)

theorem Unless.here {P : σ → Prop} {Q : σ → ι → Prop} {s : σ} {labels : List ι}
    (lasts : Unless step P Q s labels) : P s := by
  cases labels with
  | nil => exact lasts
  | cons i labels => exact lasts.1

section Unless
variable {α : Type*} {P : α → σ → Prop} {Q : α → σ → ι → Prop} {ok : σ → ι → Prop} {J : σ → Prop}

theorem Along.lasts (aux : ∀ s i, J s → J (step s i))
    (stable : ∀ s i, J s → ok s i → ∀ x, P x s → Q x s i ∨ P x (step s i)) {s : σ}
    {labels : List ι} (start : J s) (along : Along step ok s labels) {x : α} (here : P x s) :
    Unless step (P x) (Q x) s labels := by
  induction labels generalizing s with
  | nil => exact here
  | cons i labels ih =>
      refine ⟨here, ?_⟩
      rcases stable s i start along.1 x here with allowed | stays
      · exact .inl allowed
      · exact .inr (ih (aux s i start) along.2 stays)

theorem unless_iff_along (aux : ∀ s i, J s → J (step s i))
    (exact : ∀ s i, J s → ((∀ x, P x s → Q x s i ∨ P x (step s i)) ↔ ok s i)) {s : σ}
    {labels : List ι} (start : J s) :
    (∀ before rest, labels = before ++ rest → ∀ x, P x (exec step s before) →
      Unless step (P x) (Q x) (exec step s before) rest) ↔ Along step ok s labels := by
  have stable : ∀ s i, J s → ok s i → ∀ x, P x s → Q x s i ∨ P x (step s i) :=
    fun s i here => (exact s i here).mpr
  induction labels generalizing s with
  | nil =>
      refine iff_of_true ?_ trivial
      intro before rest split x here
      obtain ⟨rfl, rfl⟩ := List.nil_eq_append_iff.mp split
      exact here
  | cons i labels ih =>
      constructor
      · intro lasts
        refine ⟨(exact s i start).mp fun x here => ?_, (ih (aux s i start)).mp ?_⟩
        · exact (lasts [] (i :: labels) rfl x here).2.imp_right (Unless.here step)
        · intro before rest split
          exact lasts (i :: before) rest (congrArg (i :: ·) split)
      · intro along before rest split x here
        cases before with
        | nil =>
            obtain rfl : i :: labels = rest := split
            exact along.lasts step aux stable start here
        | cons j before =>
            obtain ⟨rfl, same⟩ := List.cons.inj split
            exact (ih (aux s i start)).mpr along.2 before rest same x here

def Spans (opens : σ → ι → Prop) (P : σ → Prop) (Q : σ → ι → Prop) (s : σ) (labels : List ι) :
    Prop :=
  ∀ before i rest, labels = before ++ i :: rest → opens (exec step s before) i →
    Unless step P Q (step (exec step s before) i) rest

theorem Spans.tail {opens : σ → ι → Prop} {P : σ → Prop} {Q : σ → ι → Prop} {s : σ} {i : ι}
    {labels : List ι} (spans : Spans step opens P Q s (i :: labels)) :
    Spans step opens P Q (step s i) labels := by
  intro before j rest split opened
  exact spans (i :: before) j rest (congrArg (i :: ·) split) opened

theorem spans_iff_along {opens : α → σ → ι → Prop} (aux : ∀ s i, J s → J (step s i))
    (opened : ∀ s i x, J s → opens x s i → P x (step s i))
    (begins : ∀ s i x, J s → P x (step s i) → ¬opens x s i → P x s ∧ ¬Q x s i)
    (exact : ∀ s i, J s → ((∀ x, P x s → Q x s i ∨ P x (step s i)) ↔ ok s i)) {s : σ}
    {labels : List ι} (start : J s) (closed : ∀ x, ¬P x s) :
    (∀ x, Spans step (opens x) (P x) (Q x) s labels) ↔ Along step ok s labels := by
  constructor
  · intro spans
    -- the spans that are open at `s` are carried along with those that are opened later
    have open_spans : ∀ x, P x s → Unless step (P x) (Q x) s labels :=
      fun x here => absurd here (closed x)
    clear closed
    induction labels generalizing s with
    | nil => trivial
    | cons i labels ih =>
        refine ⟨(exact s i start).mp fun x here => ?_,
          ih (aux s i start) (fun x => (spans x).tail) fun x next => ?_⟩
        · exact (open_spans x here).2.imp_right (Unless.here step)
        · by_cases opening : opens x s i
          · exact spans x [] i labels rfl opening
          · obtain ⟨here, lasts⟩ := begins s i x start next opening
            exact (open_spans x here).2.resolve_left lasts
  · intro along x before i rest split opening
    have here : J (exec step s before) :=
      exec_invariant step (fun s i kept _ => aux s i kept) start (.true step s before)
    have next : P x (exec step s (before ++ [i])) := by
      rw [exec, List.foldl_append]
      exact opened _ i x here opening
    have lasts := (unless_iff_along step aux exact start).mpr along (before ++ [i]) rest
      (by simp [split]) x next
    rwa [exec, List.foldl_append] at lasts

end Unless

/-- Unwinding: labels that are seen act alike on related states, labels that are not seen leave
the relation as it is; then removing the unseen labels from a run keeps the relation. -/
theorem exec_purge {R : σ → σ → Prop} {seen : ι → Bool}
    (alike : ∀ s t i, R s t → seen i = true → R (step s i) (step t i))
    (unseen : ∀ s t i, R s t → seen i = false → R (step s i) t) {s t : σ} (start : R s t)
    (labels : List ι) : R (exec step s labels) (exec step t (labels.filter seen)) := by
  induction labels generalizing s t with
  | nil => exact start
  | cons i labels ih =>
      cases h : seen i with
      | true => simpa [h] using ih (alike s t i start h)
      | false => simpa [h] using ih (unseen s t i start h)

variable {ο : Type*} (next : σ → ι → ο × σ) (spec : τ → ι → ο × τ)

def trace (s : σ) : List ι → List ο × σ
  | [] => ([], s)
  | i :: labels =>
      ((next s i).1 :: (trace (next s i).2 labels).1, (trace (next s i).2 labels).2)

/-- Forward simulation: related states give equal outputs and related states after each allowed
label, hence over each allowed run. -/
theorem trace_simulates {R : σ → τ → Prop} {ok : τ → ι → Prop}
    (simulates : ∀ s t i, R s t → ok t i →
      (next s i).1 = (spec t i).1 ∧ R (next s i).2 (spec t i).2)
    {s : σ} {t : τ} {labels : List ι} (start : R s t)
    (allowed : Along (fun t i => (spec t i).2) ok t labels) :
    (trace next s labels).1 = (trace spec t labels).1 ∧
      R (trace next s labels).2 (trace spec t labels).2 := by
  induction labels generalizing s t with
  | nil => exact ⟨rfl, start⟩
  | cons i labels ih =>
      obtain ⟨same, related⟩ := simulates s t i start allowed.1
      obtain ⟨outputs, final⟩ := ih related allowed.2
      exact ⟨by rw [trace, trace, same, outputs], final⟩

end Machine
