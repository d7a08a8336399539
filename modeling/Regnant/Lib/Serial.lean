import Mathlib.Data.List.Pairwise
import Regnant.Lib.Pool

/-!
# Threads that act at their last call

Threads run programs on one shared state, one call at a time. When only the last call of a program
changes anything, and what the program has learned before stays true whatever the other threads do,
then all threads answer as if each had run alone at the moment of its last call.
-/

universe u

namespace CallTree
variable {C : Type u} {R : C → Type u} {E α σ : Type u}

section
variable (p : (c : C) → σ → Except E (R c) × σ) (rely guarantee : σ → σ → Prop) (aborts : E → Prop)

/-- What remains of a program, of which `K` is known, ends as the whole program does where its last
call is made, or it aborts and changes nothing. -/
def Commits (whole : CallTree C R E α) : CallTree C R E α → (σ → Prop) → Prop
  | ret a, K => ∀ s, K s → run p whole s = (.ok a, s)
  | raise e, K => ∀ s, K s → run p whole s = (.error e, s)
  | call c k, K => (∀ s s', K s → rely s s' → K s') ∧ ∀ s, K s →
      match (k (p c s).1).result with
      | some x => guarantee s (p c s).2 ∧ (run p whole s = (x, (p c s).2) ∨
          (∃ e, x = .error e ∧ aborts e) ∧ (p c s).2 = s)
      | none => (p c s).2 = s ∧ ∃ K' : σ → Prop, K' s ∧ Commits whole (k (p c s).1) K'

variable {p rely guarantee aborts} {whole rest : CallTree C R E α} {c : C}
  {k : Except E (R c) → CallTree C R E α} {K : σ → Prop} {s : σ}

variable (p rely guarantee aborts) in
inductive CommitsAt (whole rest : CallTree C R E α) (s s' : σ) : Prop where
  | last {x} (ended : rest.result = some x) (guaranteed : guarantee s s')
      (alone : run p whole s = (x, s'))
  | aborted {e} (ended : rest.result = some (.error e)) (abort : aborts e) (same : s' = s)
      (guaranteed : guarantee s s')
  | next {K' : σ → Prop} (unended : rest.result = none) (same : s' = s) (known : K' s)
      (commits : Commits p rely guarantee aborts whole rest K')

theorem Commits.call (stable : ∀ s s', K s → rely s s' → K s')
    (step : ∀ s, K s → CommitsAt p rely guarantee aborts whole (k (p c s).1) s (p c s).2) :
    Commits p rely guarantee aborts whole (call c k) K := by
  refine ⟨stable, fun s known => ?_⟩
  cases step s known with
  | last ended guaranteed alone =>
      rw [ended]
      exact ⟨guaranteed, .inl alone⟩
  | aborted ended abort same guaranteed =>
      rw [ended]
      exact ⟨guaranteed, .inr ⟨⟨_, rfl, abort⟩, same⟩⟩
  | next unended same known commits =>
      rw [unended]
      exact ⟨same, _, known, commits⟩

theorem Commits.mono {guarantee' : σ → σ → Prop}
    (weaker : ∀ s s', guarantee s s' → guarantee' s s')
    (commits : Commits p rely guarantee aborts whole rest K) :
    Commits p rely guarantee' aborts whole rest K := by
  induction rest generalizing K with
  | ret a => exact commits
  | raise e => exact commits
  | call c k ih =>
      obtain ⟨stable, steps⟩ := commits
      refine ⟨stable, fun s known => ?_⟩
      have step := steps s known
      cases ended : (k (p c s).1).result with
      | some x =>
          simp only [ended] at step
          exact ⟨weaker _ _ step.1, step.2⟩
      | none =>
          simp only [ended] at step
          obtain ⟨same, K', known', rest⟩ := step
          exact ⟨same, K', known', ih _ rest⟩

end

end CallTree

open CallTree

namespace Pool
variable {ν Q : Type*} [DecidableEq ν] {C : Type u} {R : C → Type u} {E α σ : Type u}
  (p : (c : C) → σ → Except E (R c) × σ) (handler : Q → CallTree C R E α)

/-- The answers are those of the requests one after the other, each in a state of which it `knows`,
but for aborted ones. -/
inductive Serial (knows : Q → σ → Prop) (aborts : Q → E → Prop) (s₀ : σ) :
    List (Q × Except E α) → σ → Prop where
  | nil : Serial knows aborts s₀ [] s₀
  | answered {done s s' asked x} (before : Serial knows aborts s₀ done s) (known : knows asked s)
      (alone : run p (handler asked) s = (x, s')) : Serial knows aborts s₀ (done ++ [(asked, x)]) s'
  | aborted {done s asked e} (before : Serial knows aborts s₀ done s)
      (abort : aborts asked e) :
      Serial knows aborts s₀ (done ++ [(asked, .error e)]) s

def Guarantee (rely : Q → σ → σ → Prop) (knows : Q → σ → Prop) (distinct apart : Q → Q → Prop)
    (asked : Q) (s s' : σ) : Prop :=
  ∀ asked', distinct asked asked' →
    (knows asked' s → knows asked' s') ∧ (apart asked asked' → rely asked' s s')

/-- Every request commits at its last call. All requests have to be distinct, and those that are
under way together have to be apart. -/
structure Discipline (aborts : Q → E → Prop) where
  rely : Q → σ → σ → Prop
  knows : Q → σ → Prop
  distinct : Q → Q → Prop
  apart : Q → Q → Prop
  distinct_symm : ∀ asked asked', distinct asked asked' → distinct asked' asked
  apart_symm : ∀ asked asked', apart asked asked' → apart asked' asked
  stable : ∀ asked s s', knows asked s → rely asked s s' → knows asked s'
  commits : ∀ asked, Commits p (rely asked) (Guarantee rely knows distinct apart asked)
    (aborts asked) (handler asked) (handler asked) (knows asked)

def Overlaps (apart : Q → Q → Prop) (s : Pool ν Q C R E α σ) : Turn ν Q → Prop
  | .start name asked =>
      name ∉ s.threads → ∀ thread ∈ s.threads.entries, apart asked thread.2.1
  | .call _ => True

omit [DecidableEq ν] in
theorem Overlaps.mono {apart apart' : Q → Q → Prop}
    (weaker : ∀ asked asked', apart asked asked' → apart' asked asked')
    {s : Pool ν Q C R E α σ} {turn : Turn ν Q} (overlaps : Overlaps apart s turn) :
    Overlaps apart' s turn := by
  cases turn with
  | start name asked => exact fun idle thread member => weaker _ _ (overlaps idle thread member)
  | call name => trivial

instance (apart : Q → Q → Prop) [DecidableRel apart] (s : Pool ν Q C R E α σ) (turn : Turn ν Q) :
    Decidable (Overlaps apart s turn) :=
  match turn with
  | .start name asked => inferInstanceAs
      (Decidable (name ∉ s.threads → ∀ thread ∈ s.threads.entries, apart asked thread.2.1))
  | .call _ => inferInstanceAs (Decidable True)

variable {p handler} {aborts : Q → E → Prop} (d : Discipline p handler aborts) {s₀ : σ}
  {s : Pool ν Q C R E α σ} {turns : List (Turn ν Q)}

namespace Discipline

abbrev Guarantees : Q → σ → σ → Prop :=
  Guarantee d.rely d.knows d.distinct d.apart

abbrev Commits (asked : Q) (rest : CallTree C R E α) (K : σ → Prop) : Prop :=
  CallTree.Commits p (d.rely asked) (d.Guarantees asked) (aborts asked) (handler asked) rest K

def Ready (shared : σ) (asked : Q) (rest : CallTree C R E α) : Prop :=
  rest.result = none ∧ d.knows asked shared ∧ ∃ K : σ → Prop, K shared ∧ d.Commits asked rest K

structure Orderly (shared : σ) (threads : Finmap fun _ : ν => Q × CallTree C R E α)
    (coming : List Q) : Prop where
  ready : ∀ name asked rest, threads.lookup name = some (asked, rest) → d.Ready shared asked rest
  threads_apart : ∀ name asked rest name' asked' rest', name ≠ name' →
    threads.lookup name = some (asked, rest) → threads.lookup name' = some (asked', rest') →
    d.distinct asked asked' ∧ d.apart asked asked'
  coming_distinct : ∀ name asked rest, threads.lookup name = some (asked, rest) →
    ∀ asked' ∈ coming, d.distinct asked asked'
  pairwise : coming.Pairwise d.distinct
  knows : ∀ asked ∈ coming, d.knows asked shared

variable {d} {shared shared' : σ} {threads : Finmap fun _ : ν => Q × CallTree C R E α}
  {coming : List Q} {asked : Q} {rest : CallTree C R E α} {name : ν}

theorem Ready.stable (ready : d.Ready shared asked rest) (relied : d.rely asked shared shared') :
    d.Ready shared' asked rest := by
  obtain ⟨unended, knows, K, known, commits⟩ := ready
  refine ⟨unended, d.stable _ _ _ knows relied, K, ?_, commits⟩
  cases rest with
  | ret a => cases unended
  | raise e => cases unended
  | call c k => exact commits.1 _ _ known relied

theorem Orderly.tail (orderly : d.Orderly shared threads (asked :: coming)) :
    d.Orderly shared threads coming where
  ready := orderly.ready
  threads_apart := orderly.threads_apart
  coming_distinct name asked rest found asked' member :=
    orderly.coming_distinct name asked rest found asked' (List.mem_cons_of_mem _ member)
  pairwise := orderly.pairwise.tail
  knows asked member := orderly.knows asked (List.mem_cons_of_mem _ member)

theorem lookup_of_erase {entry : Q × CallTree C R E α} {name' : ν}
    (found : (threads.erase name).lookup name' = some entry) :
    name' ≠ name ∧ threads.lookup name' = some entry := by
  by_cases same : name' = name
  · rw [same, Finmap.lookup_erase] at found
    cases found
  · rw [Finmap.lookup_erase_ne same] at found
    exact ⟨same, found⟩

theorem Orderly.erase (orderly : d.Orderly shared threads coming) (name : ν) :
    d.Orderly shared (threads.erase name) coming where
  ready name' asked rest found := orderly.ready name' asked rest (lookup_of_erase found).2
  threads_apart _ _ _ _ _ _ other found found' :=
    orderly.threads_apart _ _ _ _ _ _ other (lookup_of_erase found).2 (lookup_of_erase found').2
  coming_distinct name' asked rest found :=
    orderly.coming_distinct name' asked rest (lookup_of_erase found).2
  pairwise := orderly.pairwise
  knows := orderly.knows

theorem Orderly.insert (orderly : d.Orderly shared (threads.erase name) coming)
    (ready : d.Ready shared asked rest)
    (others : ∀ name' asked' rest', (threads.erase name).lookup name' = some (asked', rest') →
      d.distinct asked asked' ∧ d.apart asked asked')
    (distinct : ∀ asked' ∈ coming, d.distinct asked asked') :
    d.Orderly shared (threads.insert name (asked, rest)) coming := by
  have known {name' : ν} {asked' : Q} {rest' : CallTree C R E α}
      (found : (threads.insert name (asked, rest)).lookup name' = some (asked', rest')) :
      (name' = name ∧ asked = asked' ∧ rest = rest') ∨
        (name' ≠ name ∧ (threads.erase name).lookup name' = some (asked', rest')) := by
    by_cases same : name' = name
    · rw [same, Finmap.lookup_insert, Option.some.injEq, Prod.mk.injEq] at found
      exact .inl ⟨same, found⟩
    · rw [Finmap.lookup_insert_of_ne _ same] at found
      exact .inr ⟨same, (Finmap.lookup_erase_ne same).trans found⟩
  refine ⟨fun name' asked' rest' found => ?_, ?_, fun name' asked' rest' found => ?_,
    orderly.pairwise, orderly.knows⟩
  · rcases known found with ⟨-, rfl, rfl⟩ | ⟨-, found⟩
    · exact ready
    · exact orderly.ready _ _ _ found
  · intro name' asked' rest' name'' asked'' rest'' other found found'
    rcases known found with ⟨rfl, rfl, rfl⟩ | ⟨-, found⟩ <;>
      rcases known found' with ⟨rfl, rfl, rfl⟩ | ⟨-, found'⟩
    · exact absurd rfl other
    · exact others _ _ _ found'
    · have ⟨distinct, apart⟩ := others _ _ _ found
      exact ⟨d.distinct_symm _ _ distinct, d.apart_symm _ _ apart⟩
    · exact orderly.threads_apart _ _ _ _ _ _ other found found'
  · rcases known found with ⟨-, rfl, rfl⟩ | ⟨-, found⟩
    · exact distinct
    · exact orderly.coming_distinct _ _ _ found

theorem Orderly.change (orderly : d.Orderly shared threads coming)
    (guaranteed : d.Guarantees asked shared shared')
    (others : ∀ name' asked' rest', threads.lookup name' = some (asked', rest') →
      d.distinct asked asked' ∧ d.apart asked asked')
    (distinct : ∀ asked' ∈ coming, d.distinct asked asked') :
    d.Orderly shared' threads coming where
  ready name' asked' rest' found :=
    have ⟨distinct, apart⟩ := others _ _ _ found
    (orderly.ready name' asked' rest' found).stable ((guaranteed _ distinct).2 apart)
  threads_apart := orderly.threads_apart
  coming_distinct := orderly.coming_distinct
  pairwise := orderly.pairwise
  knows asked' member := (guaranteed _ (distinct asked' member)).1 (orderly.knows asked' member)

theorem Orderly.start (orderly : d.Orderly s.shared s.threads (asked :: coming))
    (overlaps : ∀ thread ∈ s.threads.entries, d.apart asked thread.2.1)
    (serial : Serial p handler d.knows aborts s₀ s.answers s.shared) :
    let s' := s.resume name asked (handler asked)
    d.Orderly s'.shared s'.threads coming ∧
      Serial p handler d.knows aborts s₀ s'.answers s'.shared := by
  have knows := orderly.knows asked List.mem_cons_self
  have commits := d.commits asked
  unfold resume
  cases whole : handler asked with
  | ret a =>
      rw [whole] at commits
      exact ⟨orderly.tail.erase name, serial.answered knows (by rw [whole]; exact commits _ knows)⟩
  | raise e =>
      rw [whole] at commits
      exact ⟨orderly.tail.erase name, serial.answered knows (by rw [whole]; exact commits _ knows)⟩
  | call c k =>
      refine ⟨(orderly.tail.erase name).insert ⟨rfl, knows, _, knows, whole ▸ commits⟩ ?_ ?_,
        serial⟩
      · intro name' asked' rest' found
        have found := (lookup_of_erase found).2
        have distinct := orderly.coming_distinct name' asked' rest' found asked List.mem_cons_self
        exact ⟨d.distinct_symm _ _ distinct, overlaps _ (Finmap.mem_lookup_iff.mp found)⟩
      · exact fun asked' member => List.rel_of_pairwise_cons orderly.pairwise member

theorem Orderly.call (orderly : d.Orderly s.shared s.threads coming)
    (serial : Serial p handler d.knows aborts s₀ s.answers s.shared)
    (found : s.threads.lookup name = some (asked, rest)) :
    let s' := { s with shared := (rest.advance p s.shared).2 }.resume name asked
      (rest.advance p s.shared).1
    d.Orderly s'.shared s'.threads coming ∧
      Serial p handler d.knows aborts s₀ s'.answers s'.shared := by
  have others (name' : ν) (asked' : Q) (rest' : CallTree C R E α)
      (found' : (s.threads.erase name).lookup name' = some (asked', rest')) :
      d.distinct asked asked' ∧ d.apart asked asked' :=
    orderly.threads_apart _ _ _ _ _ _ (lookup_of_erase found').1.symm found
      (lookup_of_erase found').2
  have distinct := orderly.coming_distinct name asked rest found
  obtain ⟨unended, knows, K, known, commits⟩ := orderly.ready name asked rest found
  cases rest with
  | ret a => cases unended
  | raise e => cases unended
  | call c k =>
      have ends := commits.2 s.shared known
      simp only [advance, resume]
      cases result : (k (p c s.shared).1).result with
      | some x =>
          simp only [result] at ends
          obtain ⟨guaranteed, alone | ⟨⟨e, rfl, abort⟩, same⟩⟩ := ends
          · exact ⟨(orderly.erase name).change guaranteed others distinct,
              serial.answered knows alone⟩
          · simp only [same]
            exact ⟨orderly.erase name, serial.aborted abort⟩
      | none =>
          simp only [result] at ends
          obtain ⟨same, K', known', commits'⟩ := ends
          simp only [same]
          exact ⟨(orderly.erase name).insert ⟨result, knows, K', known', commits'⟩ others
            distinct, serial⟩

theorem Orderly.step {turn : Turn ν Q} {turns : List (Turn ν Q)}
    (orderly : d.Orderly s.shared s.threads ((turn :: turns).filterMap Turn.asked))
    (overlaps : Overlaps d.apart s turn)
    (serial : Serial p handler d.knows aborts s₀ s.answers s.shared) :
    let s' := Pool.step p handler s turn
    d.Orderly s'.shared s'.threads (turns.filterMap Turn.asked) ∧
      Serial p handler d.knows aborts s₀ s'.answers s'.shared := by
  cases turn with
  | start name asked =>
      rw [List.filterMap_cons_some (by rfl)] at orderly
      simp only [Pool.step]
      split
      · exact ⟨orderly.tail, serial⟩
      · next idle => exact orderly.start (overlaps idle) serial
  | call name =>
      rw [List.filterMap_cons_none (by rfl)] at orderly
      simp only [Pool.step]
      split
      · exact ⟨orderly, serial⟩
      · next found => exact orderly.call serial found

/-- The answers of all threads are those of the requests one after the other, each served at the
moment of its last call, but for requests that aborted and changed nothing. -/
theorem serial_after (d : Discipline p handler aborts) (s₀ : σ) (turns : List (Turn ν Q))
    (distinct : (turns.filterMap Turn.asked).Pairwise d.distinct)
    (overlaps : Machine.Along (step p handler) (Overlaps d.apart) ⟨s₀, ∅, []⟩ turns)
    (knows : ∀ asked ∈ turns.filterMap Turn.asked, d.knows asked s₀) :
    Serial p handler d.knows aborts s₀ (after p handler s₀ turns).answers
      (after p handler s₀ turns).shared := by
  suffices all : ∀ s : Pool ν Q C R E α σ,
      d.Orderly s.shared s.threads (turns.filterMap Turn.asked) →
      Machine.Along (step p handler) (Overlaps d.apart) s turns →
      Serial p handler d.knows aborts s₀ s.answers s.shared →
      Serial p handler d.knows aborts s₀ (Machine.exec (step p handler) s turns).answers
        (Machine.exec (step p handler) s turns).shared by
    refine all ⟨s₀, ∅, []⟩ ⟨?_, ?_, ?_, distinct, knows⟩ overlaps .nil
    all_goals simp [Finmap.lookup_empty]
  clear distinct overlaps knows
  induction turns with
  | nil => exact fun _ _ _ serial => serial
  | cons turn turns ih =>
      rintro s orderly ⟨overlaps, later⟩ serial
      obtain ⟨orderly, serial⟩ := orderly.step overlaps serial
      exact ih _ orderly later serial

end Discipline

end Pool
