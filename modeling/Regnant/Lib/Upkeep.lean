import Regnant.Lib.Pool

universe u

namespace CallTree
variable {C : Type u} {R : C → Type u} {E α σ : Type u}
  (p : (c : C) → σ → Except E (R c) × σ) (rely : σ → σ → Prop) (I : σ → Prop)

/-- What remains of a program, of which `K` is known, keeps the invariant and does nothing that
others do not rely on. -/
def Upholds : CallTree C R E α → (σ → Prop) → Prop
  | call c k, K => (∀ s s', K s → rely s s' → K s') ∧ ∀ s, I s → K s →
      I (p c s).2 ∧ rely s (p c s).2 ∧ ∃ K' : σ → Prop, K' (p c s).2 ∧ Upholds (k (p c s).1) K'
  | _, _ => True

end CallTree

namespace Pool
variable {ν Q : Type*} [DecidableEq ν] {C : Type u} {R : C → Type u} {E α σ : Type u}
  {p : (c : C) → σ → Except E (R c) × σ} {handler : Q → CallTree C R E α} {rely : σ → σ → Prop}
  {I : σ → Prop} {s : Pool ν Q C R E α σ} {name : ν} {asked : Q} {rest : CallTree C R E α}

variable (p rely I) in
def Upright (shared : σ) (rest : CallTree C R E α) : Prop :=
  ∃ K : σ → Prop, K shared ∧ rest.Upholds p rely I K

variable (p rely I) in
structure Upheld (s : Pool ν Q C R E α σ) : Prop where
  holds : I s.shared
  threads : ∀ name asked rest, s.threads.lookup name = some (asked, rest) →
    Upright p rely I s.shared rest

theorem Upright.relied {shared shared' : σ} (upright : Upright p rely I shared rest)
    (relied : rely shared shared') : Upright p rely I shared' rest := by
  obtain ⟨K, known, upholds⟩ := upright
  cases rest with
  | call c k => exact ⟨K, upholds.1 _ _ known relied, upholds⟩
  | _ => exact ⟨fun _ => True, trivial, trivial⟩

theorem Upheld.resume (upheld : s.Upheld p rely I) (upright : Upright p rely I s.shared rest) :
    (s.resume name asked rest).Upheld p rely I := by
  unfold Pool.resume
  split
  · refine ⟨upheld.holds, fun name' asked' rest' found => ?_⟩
    by_cases same : name' = name
    · rw [same, Finmap.lookup_erase] at found
      cases found
    · exact upheld.threads name' asked' rest' ((Finmap.lookup_erase_ne same).symm.trans found)
  · refine ⟨upheld.holds, fun name' asked' rest' found => ?_⟩
    by_cases same : name' = name
    · rw [same, Finmap.lookup_insert] at found
      cases found
      exact upright
    · rw [Finmap.lookup_insert_of_ne _ same] at found
      exact upheld.threads name' asked' rest' found

theorem Upheld.step (starts : ∀ asked, (handler asked).Upholds p rely I fun _ => True)
    (upheld : s.Upheld p rely I) (turn : Turn ν Q) : (s.step p handler turn).Upheld p rely I := by
  cases turn with
  | start name asked =>
      simp only [Pool.step]
      split
      · exact upheld
      · exact upheld.resume ⟨_, trivial, starts asked⟩
  | call name =>
      simp only [Pool.step]
      split
      next => exact upheld
      next asked rest found =>
        obtain ⟨K, known, upholds⟩ := upheld.threads name asked rest found
        cases rest with
        | call c k =>
            obtain ⟨holds, relied, after⟩ := upholds.2 s.shared upheld.holds known
            exact Upheld.resume ⟨holds, fun name' asked' rest' found' =>
              (upheld.threads name' asked' rest' found').relied relied⟩ after
        | _ => exact Upheld.resume ⟨upheld.holds, upheld.threads⟩ ⟨K, known, upholds⟩

theorem upheld_after (starts : ∀ asked, (handler asked).Upholds p rely I fun _ => True) {s₀ : σ}
    (start : I s₀) (turns : List (Turn ν Q)) : I (after p handler s₀ turns).shared := by
  have all : (after p handler s₀ turns).Upheld p rely I := by
    refine Machine.exec_invariant (I := Upheld p rely I) _ (fun s turn upheld _ =>
      upheld.step starts turn) ⟨start, ?_⟩ (Machine.Along.true _ _ _)
    simp [Finmap.lookup_empty]
  exact all.holds

end Pool
