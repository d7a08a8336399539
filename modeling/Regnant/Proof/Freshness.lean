import Mathlib.Tactic.Linarith
import Regnant.Lib.Machine
import Regnant.Proof.Leaves

/-!
# The age of the contexts

A plugin is called again and again, each time on a store that may have changed, may change while it
is listed, and may raise at any call. Its cache is only ever what one whole listing collected, and
is as old as the beginning of that listing.
-/

namespace Regnant.Sovereign
open CallTree (run)
open Osb (Value)

variable {C : Type} {R : C → Type} {ρ ν : Type} {Obj Bytes σ : Type}

structure Attempt (C : Type) (R : C → Type) (σ : Type) where
  now : ℚ
  pages : Nat
  answer : (c : C) → σ → Except Exn (R c) × σ
  store : σ

structure Attempts (C : Type) (R : C → Type) (σ Obj : Type) where
  cache : Option (Cache Obj) := none
  attempts : List (Attempt C R σ) := []

section
variable (refreshInterval : Int) (reader : Paging.Reader C R Exn ρ String ν String Obj)

def Attempt.run (a : Attempt C R σ) (cache : Option (Cache Obj)) :
    Except Exn (Option (Payload Obj)) × σ × Option (Cache Obj) :=
  CallTree.run (Cell.perform a.answer) (refresh refreshInterval reader a.pages a.now)
    (a.store, cache)

def Attempt.Lists (a : Attempt C R σ) (payload : Payload Obj) : Prop :=
  ∃ responses loaded s', Paging.Reader.Listing reader a.answer none a.store responses loaded s' ∧
    payload = Paging.Reader.gather [] loaded

namespace Attempts

def step (s : Attempts C R σ Obj) (a : Attempt C R σ) : Attempts C R σ Obj :=
  ⟨(a.run refreshInterval reader s.cache).2.2, a :: s.attempts⟩

def Monotone (s : Attempts C R σ Obj) (a : Attempt C R σ) : Prop :=
  ∀ b ∈ s.attempts, b.now ≤ a.now

structure Sound (s : Attempts C R σ Obj) (a : Attempt C R σ) : Prop where
  whole : ∀ payload, (a.run refreshInterval reader s.cache).1 = .ok (some payload) →
    ∃ b ∈ a :: s.attempts, a.now - refreshInterval < b.now ∧ b.Lists reader payload
  raised : ∀ e, (a.run refreshInterval reader s.cache).1 = .error e →
    (a.run refreshInterval reader s.cache).2.2 = s.cache
  expired : ∀ cache ∈ s.cache, ∀ b ∈ a :: s.attempts, refreshInterval ≤ b.now - cache.fetchedAt →
    (a.run refreshInterval reader s.cache).1 = (a.run refreshInterval reader none).1

def Filled (s : Attempts C R σ Obj) : Prop :=
  ∀ cache ∈ s.cache, ∃ b ∈ s.attempts, b.now = cache.fetchedAt ∧ b.Lists reader cache.payload

end Attempts
end

variable {refreshInterval : Int} {reader : Paging.Reader C R Exn ρ String ν String Obj}
  {s : Attempts C R σ Obj} {a : Attempt C R σ} {cache : Option (Cache Obj)} {payload : Payload Obj}

namespace Attempt

variable (reader) in
theorem run_of_fresh (isFresh : fresh refreshInterval cache a.now = some payload) :
    a.run refreshInterval reader cache = (.ok (some payload), (a.store, cache)) :=
  run_refresh_of_fresh isFresh

theorem lists_of_walk {entries : Payload Obj} {s' : σ}
    (walked : CallTree.run a.answer (reader.walk a.pages none []) a.store =
      (.ok (some entries), s')) : a.Lists reader entries := by
  obtain ⟨responses, loaded, listing, same⟩ := Paging.Reader.listing_of_walk walked
  exact ⟨responses, loaded, s', listing, same⟩

variable (reader) in
/-- A call with a stale cache lists anew: what comes of it does not depend on the cache, and only a
whole listing replaces the cache. -/
theorem run_of_stale (stale : fresh refreshInterval cache a.now = none) :
    (a.run refreshInterval reader cache).1 = (a.run refreshInterval reader none).1 ∧
      ((∃ payload, (a.run refreshInterval reader cache).1 = .ok (some payload) ∧
          (a.run refreshInterval reader cache).2.2 = some ⟨payload, a.now⟩ ∧
          a.Lists reader payload) ∨
        (∀ payload, (a.run refreshInterval reader cache).1 ≠ .ok (some payload)) ∧
          (a.run refreshInterval reader cache).2.2 = cache) := by
  have empty : fresh refreshInterval (none : Option (Cache Obj)) a.now = none := rfl
  simp only [Attempt.run, run_refresh_of_stale stale, run_refresh_of_stale empty]
  cases walked : CallTree.run a.answer (reader.walk a.pages none []) a.store with
  | mk result s' =>
      cases result with
      | error e => exact ⟨rfl, .inr ⟨fun payload => by simp, rfl⟩⟩
      | ok collected =>
          cases collected with
          | none => exact ⟨rfl, .inr ⟨fun payload => by simp, rfl⟩⟩
          | some payload => exact ⟨rfl, .inl ⟨payload, rfl, rfl, lists_of_walk walked⟩⟩

end Attempt

namespace Attempts

theorem Filled.step (filled : s.Filled reader) :
    (s.step refreshInterval reader a).Filled reader := by
  intro cache present
  simp only [Attempts.step] at present ⊢
  cases isFresh : fresh refreshInterval s.cache a.now with
  | some payload =>
      rw [Attempt.run_of_fresh reader isFresh] at present
      obtain ⟨b, called, filledBy⟩ := filled cache present
      exact ⟨b, .tail _ called, filledBy⟩
  | none =>
      obtain ⟨-, ⟨payload, -, replaced, lists⟩ | ⟨-, kept⟩⟩ :=
        Attempt.run_of_stale reader isFresh
      · rw [replaced] at present
        obtain rfl := Option.some.inj present
        exact ⟨a, .head _, rfl, lists⟩
      · rw [kept] at present
        obtain ⟨b, called, filledBy⟩ := filled cache present
        exact ⟨b, .tail _ called, filledBy⟩

theorem Filled.sound (filled : s.Filled reader) (positive : 0 < refreshInterval)
    (monotone : s.Monotone a) : s.Sound refreshInterval reader a := by
  have upTo : ∀ b ∈ a :: s.attempts, b.now ≤ a.now :=
    List.forall_mem_cons.mpr ⟨le_refl a.now, monotone⟩
  cases isFresh : fresh refreshInterval s.cache a.now with
  | some payload =>
      have ran := Attempt.run_of_fresh reader isFresh
      obtain ⟨cache, present, young, same⟩ := fresh_eq_some.mp isFresh
      constructor
      · intro payload' returned
        rw [ran] at returned
        obtain rfl : payload = payload' := by simpa using returned
        obtain ⟨b, called, clock, lists⟩ := filled cache present
        refine ⟨b, .tail _ called, ?_, same ▸ lists⟩
        rw [clock]
        linarith
      · intro e raised
        rw [ran] at raised
        cases raised
      · intro cache' present' b member old
        -- the clock has only gone on since the age reached the interval
        obtain rfl : cache = cache' := Option.some.inj (present.symm.trans present')
        have later := upTo b member
        linarith
  | none =>
      obtain ⟨uncached, outcome⟩ := Attempt.run_of_stale reader isFresh
      constructor
      · intro payload' returned
        rcases outcome with ⟨payload, here, -, lists⟩ | ⟨never, -⟩
        · obtain rfl : payload = payload' := by simpa using here.symm.trans returned
          have start : a.now - refreshInterval < a.now := by
            have cast : (0 : ℚ) < refreshInterval := by exact_mod_cast positive
            linarith
          exact ⟨a, .head _, start, lists⟩
        · exact absurd returned (never payload')
      · intro e raised
        rcases outcome with ⟨payload, here, -, -⟩ | ⟨-, kept⟩
        · rw [here] at raised
          cases raised
        · exact kept
      · intro _ _ _ _ _
        exact uncached

theorem along_monotone {calls : List (Attempt C R σ)} (sorted : calls.Pairwise (·.now ≤ ·.now))
    (after : ∀ a ∈ calls, s.Monotone a) :
    Machine.Along (Attempts.step refreshInterval reader) Monotone s calls := by
  induction calls generalizing s with
  | nil => trivial
  | cons a calls ih =>
      obtain ⟨first, sorted⟩ := List.pairwise_cons.mp sorted
      obtain ⟨here, after⟩ := List.forall_mem_cons.mp after
      refine ⟨here, ih sorted fun b member => ?_⟩
      exact List.forall_mem_cons.mpr ⟨first b member, after b member⟩

theorem along_sound (positive : 0 < refreshInterval) {calls : List (Attempt C R σ)}
    (sorted : calls.Pairwise (·.now ≤ ·.now)) :
    Machine.Along (step refreshInterval reader) (Sound refreshInterval reader) {} calls := by
  have monotone : Machine.Along (step refreshInterval reader) Monotone {} calls :=
    along_monotone sorted fun a _ b member => absurd member List.not_mem_nil
  have both : Machine.Along (step refreshInterval reader)
      (fun s a => Monotone s a ∧ Sound refreshInterval reader s a) {} calls :=
    (Machine.along_congr (step refreshInterval reader) (I := Filled reader)
      (fun s a filled => and_iff_left_of_imp (filled.sound positive))
      (fun s a filled _ => filled.step) (fun _ empty => by cases empty)).mpr monotone
  exact both.mono (step refreshInterval reader) fun s a here => here.2

end Attempts

/-- Both plugins refresh their contexts as a whole, and serve none whose age has reached the
interval. -/
theorem contexts_whole_and_young (artifacts : S3ContextPlugin) (safeLoad : Bytes → Except Exn Obj)
    (artifactsInterval : 0 < artifacts.refreshInterval)
    (artifactCalls : List (Attempt S3Call (S3Call.Result Bytes) σ))
    (artifactClocks : artifactCalls.Pairwise (·.now ≤ ·.now))
    (leaves : SecretsContextPlugin) (jsonLoads : String → Except Exn Value)
    (leavesInterval : 0 < leaves.refreshInterval)
    (leafCalls : List (Attempt SecretsCall SecretsCall.Result σ))
    (leafClocks : leafCalls.Pairwise (·.now ≤ ·.now)) :
    Machine.Along (Attempts.step artifacts.refreshInterval (artifacts.reader safeLoad))
        (Attempts.Sound artifacts.refreshInterval (artifacts.reader safeLoad)) {} artifactCalls ∧
      Machine.Along (Attempts.step leaves.refreshInterval (leaves.reader jsonLoads))
        (Attempts.Sound leaves.refreshInterval (leaves.reader jsonLoads)) {} leafCalls :=
  ⟨Attempts.along_sound artifactsInterval artifactClocks,
    Attempts.along_sound leavesInterval leafClocks⟩

def throttled (c : C) (s : σ) : Except Exn (R c) × σ :=
  (.error (.clientError "ThrottlingException"), s)

theorem throttled_whole_and_young :
    let safeLoad := fun body : String => Except.ok (Value.str body)
    let reader := S3ContextPlugin.reader {} safeLoad
    let leaves := SecretsContextPlugin.reader {} SecretsContextPlugin.loadsNumber
    Machine.Along (Attempts.step 30 reader) (Attempts.Sound 30 reader) {}
        [⟨0, 3, S3ContextPlugin.threeObjects.answer, ()⟩, ⟨10, 3, throttled, ()⟩,
          ⟨31, 3, throttled, ()⟩] ∧
      Machine.Along (Attempts.step 60 leaves) (Attempts.Sound 60 leaves) {}
        [⟨0, 2, SecretsContextPlugin.withAuthority.answer, ()⟩, ⟨61, 2, throttled, ()⟩] :=
  contexts_whole_and_young {} _ (by decide) _ (by norm_num) {} _ (by decide) _ (by norm_num)

end Regnant.Sovereign
