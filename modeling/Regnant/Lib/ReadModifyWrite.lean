import Regnant.Lib.Machine
import Mathlib.Data.List.Nodup
import Mathlib.Logic.Function.Basic

/-!
# Updating by reading and writing back

Clients update one value in three steps: they read it, they write what their update makes of what
they read, and they publish what they wrote. The order of the writes is a serial order as long as
nobody writes what is not made of the current value.
-/

namespace ReadModifyWrite
open Function

inductive Phase (U V : Type*) where
  | idle
  | reading (u : U)
  | writing (u : U) (seen : V)
  | publishing (u : U) (made : V)

structure Register (κ U V : Type*) where
  value : V
  clients : κ → Phase U V
  published : Option V
  finished : List U

inductive Label (κ U : Type*) where
  | start (k : κ) (u : U)
  | advance (k : κ)

variable {κ U V : Type*} (act : U → V → V)

def step [DecidableEq κ] (s : Register κ U V) : Label κ U → Register κ U V
  | .start k u =>
      match s.clients k with
      | .idle => { s with clients := update s.clients k (.reading u) }
      | _ => s
  | .advance k =>
      match s.clients k with
      | .idle => s
      | .reading u => { s with clients := update s.clients k (.writing u s.value) }
      | .writing u seen =>
          { s with
            value := act u seen
            clients := update s.clients k (.publishing u (act u seen)) }
      | .publishing u made =>
          { s with
            published := some made
            finished := u :: s.finished
            clients := update s.clients k .idle }

def Register.Quiet (s : Register κ U V) : Prop :=
  ∀ k, s.clients k = .idle

/-- A write makes what the update makes of the current value, and a client that leaves all clients
idle publishes the current value. -/
def Careful (s : Register κ U V) : Label κ U → Prop
  | .start _ _ => True
  | .advance k =>
      match s.clients k with
      | .writing u seen => act u seen = act u s.value
      | .publishing _ made => (∀ other, other ≠ k → s.clients other = .idle) → made = s.value
      | _ => True

abbrev serially (v : V) (order : List U) : V :=
  order.foldl (fun v u => act u v) v

structure Committed (first : V) (s : Register κ U V) (order : List U) (pending : List (κ × U)) :
    Prop where
  value : s.value = serially act first order
  perm : order.Perm (s.finished ++ pending.map (·.2))
  names : (pending.map (·.1)).Nodup
  pending : ∀ k u, (k, u) ∈ pending ↔ ∃ made, s.clients k = .publishing u made

structure Serial (first : V) (s : Register κ U V) : Prop where
  committed : ∃ order pending, Committed act first s order pending
  published : s.Quiet → s.finished ≠ [] → s.published = some s.value

variable {act} {first : V} {s : Register κ U V} {order : List U} {pending : List (κ × U)} {k : κ}
  {u : U} {made : V}

theorem Serial.init (idle : s.Quiet) (none : s.finished = []) : Serial act s.value s := by
  refine ⟨⟨[], [], rfl, by simp [none], .nil, fun k u => ?_⟩, fun _ some => absurd none some⟩
  simp [idle k]

theorem Serial.quiet (serial : Serial act first s) (quiet : s.Quiet) :
    ∃ order, order.Perm s.finished ∧ s.value = serially act first order := by
  obtain ⟨order, pending, committed⟩ := serial.committed
  have none : pending = [] := by
    apply List.eq_nil_iff_forall_not_mem.mpr
    rintro ⟨k, u⟩ member
    obtain ⟨made, publishing⟩ := (committed.pending k u).mp member
    rw [quiet k] at publishing
    cases publishing
  have perm := committed.perm
  rw [none, List.map_nil, List.append_nil] at perm
  exact ⟨order, perm, committed.value⟩

variable [DecidableEq κ]

theorem Committed.moved {phase : Phase U V} (committed : Committed act first s order pending)
    (before : ∀ u made, s.clients k ≠ .publishing u made)
    (after : ∀ u made, phase ≠ .publishing u made) :
    Committed act first { s with clients := update s.clients k phase } order pending := by
  refine ⟨committed.value, committed.perm, committed.names, fun other u => ?_⟩
  rw [committed.pending]
  by_cases same : other = k
  · subst same
    simp [before, after]
  · simp [same]

theorem Committed.written {seen : V} (committed : Committed act first s order pending)
    (before : s.clients k = .writing u seen) (current : act u seen = act u s.value) :
    Committed act first
      { s with
        value := act u seen
        clients := update s.clients k (.publishing u (act u seen)) }
      (order ++ [u]) ((k, u) :: pending) := by
  have new : k ∉ pending.map (·.1) := by
    intro member
    obtain ⟨⟨k', u'⟩, listed, same⟩ := List.mem_map.mp member
    obtain rfl : k' = k := same
    obtain ⟨made, publishing⟩ := (committed.pending k' u').mp listed
    rw [before] at publishing
    cases publishing
  constructor
  · simp [serially, List.foldl_append, current, committed.value]
  · have swapped : (order ++ [u]).Perm (u :: (s.finished ++ pending.map (·.2))) :=
      (committed.perm.append_right [u]).trans List.perm_append_comm
    have placed : (s.finished ++ u :: pending.map (·.2)).Perm
        (u :: (s.finished ++ pending.map (·.2))) := List.perm_middle
    exact swapped.trans placed.symm
  · exact List.nodup_cons.mpr ⟨new, committed.names⟩
  · intro other u'
    rw [List.mem_cons, committed.pending]
    by_cases same : other = k
    · subst same
      simp [before, eq_comm]
    · simp [same]

theorem Committed.finished (committed : Committed act first s order pending)
    (before : s.clients k = .publishing u made) :
    ∃ rest, Committed act first
      { s with
        published := some made
        finished := u :: s.finished
        clients := update s.clients k .idle } order rest := by
  obtain ⟨front, back, rfl⟩ := List.append_of_mem ((committed.pending k u).mpr ⟨made, before⟩)
  have names := committed.names
  rw [List.map_append, List.map_cons, List.nodup_middle, ← List.map_append,
    List.nodup_cons] at names
  refine ⟨front ++ back, committed.value, ?_, names.2, fun other u' => ?_⟩
  · have perm := committed.perm
    rw [List.map_append, List.map_cons] at perm
    refine perm.trans ?_
    rw [← List.append_assoc, List.map_append, ← List.append_assoc, List.cons_append]
    exact List.perm_middle
  · have others := committed.pending other u'
    by_cases same : other = k
    · subst same
      refine iff_of_false (fun member => names.1 ?_) (by simp)
      exact List.mem_map.mpr ⟨(other, u'), member, rfl⟩
    · simp only [update_of_ne same]
      rw [← others]
      simp [same]

theorem Serial.step (serial : Serial act first s) {i : Label κ U} (careful : Careful act s i) :
    Serial act first (step act s i) := by
  obtain ⟨⟨order, pending, committed⟩, published⟩ := serial
  cases i with
  | start k u =>
      cases phase : s.clients k with
      | idle =>
          simp only [ReadModifyWrite.step, phase]
          refine ⟨⟨order, pending, committed.moved (by simp [phase]) (by simp)⟩, fun quiet => ?_⟩
          simpa using quiet k
      | _ =>
          simp only [ReadModifyWrite.step, phase]
          exact ⟨⟨order, pending, committed⟩, published⟩
  | advance k =>
      cases phase : s.clients k with
      | idle =>
          simp only [ReadModifyWrite.step, phase]
          exact ⟨⟨order, pending, committed⟩, published⟩
      | reading u =>
          simp only [ReadModifyWrite.step, phase]
          refine ⟨⟨order, pending, committed.moved (by simp [phase]) (by simp)⟩, fun quiet => ?_⟩
          simpa using quiet k
      | writing u seen =>
          simp only [Careful, phase] at careful
          simp only [ReadModifyWrite.step, phase]
          refine ⟨⟨_, _, committed.written phase careful⟩, fun quiet => ?_⟩
          simpa using quiet k
      | publishing u made =>
          simp only [Careful, phase] at careful
          simp only [ReadModifyWrite.step, phase]
          obtain ⟨rest, finished⟩ := committed.finished phase
          refine ⟨⟨order, rest, finished⟩,
            fun quiet _ => congrArg some (careful fun other ne => ?_)⟩
          simpa [ne] using quiet other

/-! ## The order of the writes -/

/-- How often the value was changed, how often it had been when a client had written, and the most
changes that a client had seen which has published. -/
structure WriteOrder (κ : Type*) where
  changes : ℕ
  seen : κ → ℕ
  published : ℕ

def WriteOrder.init : WriteOrder κ :=
  ⟨0, fun _ => 0, 0⟩

def WriteOrder.wrote (o : WriteOrder κ) (k : κ) (changed : Prop) [Decidable changed] :
    WriteOrder κ :=
  let changes := if changed then o.changes + 1 else o.changes
  ⟨changes, update o.seen k changes, o.published⟩

def WriteOrder.publish (o : WriteOrder κ) (k : κ) : WriteOrder κ :=
  { o with published := max o.published (o.seen k) }

variable {o : WriteOrder κ}

structure Ranked (s : Register κ U V) (o : WriteOrder κ) : Prop where
  published : o.published ≤ o.changes
  seen : ∀ k u made, s.clients k = .publishing u made →
    o.seen k ≤ o.changes ∧ (o.seen k = o.changes → made = s.value)
  newest : o.published = o.changes ∨
    ∃ k u made, s.clients k = .publishing u made ∧ o.seen k = o.changes

omit [DecidableEq κ] in
theorem Ranked.init (idle : s.Quiet) : Ranked s .init :=
  ⟨Nat.le_refl 0, fun k u made phase => by simp [idle k] at phase, .inl rfl⟩

theorem Ranked.last (ranked : Ranked s o) (publishing : s.clients k = .publishing u made)
    (alone : ∀ other, other ≠ k → s.clients other = .idle) (inOrder : o.published ≤ o.seen k) :
    made = s.value := by
  obtain ⟨le, value⟩ := ranked.seen k u made publishing
  refine value ?_
  rcases ranked.newest with published | ⟨k', u', made', publishing', newest⟩
  · exact Nat.le_antisymm le (published ▸ inOrder)
  · obtain rfl : k' = k := by
      by_contra other
      rw [alone k' other] at publishing'
      cases publishing'
    exact newest

theorem Ranked.moved {phase : Phase U V} (ranked : Ranked s o)
    (before : ∀ u made, s.clients k ≠ .publishing u made)
    (after : ∀ u made, phase ≠ .publishing u made) :
    Ranked { s with clients := update s.clients k phase } o := by
  refine ⟨ranked.published, fun other u made publishing => ?_, ranked.newest.imp_right ?_⟩
  · by_cases same : other = k
    · subst same
      simp [after] at publishing
    · exact ranked.seen other u made (by simpa [same] using publishing)
  · rintro ⟨other, u, made, publishing, newest⟩
    have same : other ≠ k := fun same => before u made (same ▸ publishing)
    exact ⟨other, u, made, by simpa [same] using publishing, newest⟩

theorem Ranked.started (ranked : Ranked s o) : Ranked (step act s (.start k u)) o := by
  cases phase : s.clients k with
  | idle =>
      simp only [step, phase]
      exact ranked.moved (by simp [phase]) (by simp)
  | _ =>
      simp only [step, phase]
      exact ranked

theorem Ranked.wrote {made : V} {changed : Prop} [Decidable changed] (ranked : Ranked s o)
    (kept : ¬changed → made = s.value) :
    Ranked { s with value := made, clients := update s.clients k (.publishing u made) }
      (o.wrote k changed) := by
  have bound := ranked.published
  constructor
  · simp only [WriteOrder.wrote]
    split <;> omega
  · intro other u' made' publishing
    by_cases same : other = k
    · subst same
      simp only [update_self, Phase.publishing.injEq] at publishing
      simp [WriteOrder.wrote, publishing.2]
    · obtain ⟨le, value⟩ := ranked.seen other u' made' (by simpa [same] using publishing)
      simp only [WriteOrder.wrote, update_of_ne same]
      split
      next => exact ⟨by omega, fun eq => by omega⟩
      next unchanged => exact ⟨le, fun eq => (value eq).trans (kept unchanged).symm⟩
  · exact .inr ⟨k, u, made, by simp, by simp [WriteOrder.wrote]⟩

theorem Ranked.publish {finished : List U} {published : Option V} (ranked : Ranked s o)
    (before : s.clients k = .publishing u made) :
    Ranked ⟨s.value, update s.clients k .idle, published, finished⟩ (o.publish k) := by
  obtain ⟨le, -⟩ := ranked.seen k u made before
  have bound := ranked.published
  refine ⟨Nat.max_le.mpr ⟨bound, le⟩, fun other u' made' publishing => ?_, ?_⟩
  · by_cases same : other = k
    · subst same
      simp at publishing
    · exact ranked.seen other u' made' (by simpa [same] using publishing)
  · rcases ranked.newest with newest | ⟨other, u', made', publishing, newest⟩
    · exact .inl (Nat.le_antisymm (Nat.max_le.mpr ⟨bound, le⟩) (newest ▸ Nat.le_max_left _ _))
    · by_cases same : other = k
      · subst same
        exact .inl (Nat.le_antisymm (Nat.max_le.mpr ⟨bound, le⟩) (newest ▸ Nat.le_max_right _ _))
      · exact .inr ⟨other, u', made', by simpa [same] using publishing, newest⟩

end ReadModifyWrite
