import Regnant.Proof.BindingSteps

/-!
# Incarnations of an instance

An instance lives from the step that makes its row to the step that removes it. Nothing removes the
bindings of an instance with it, and a bind message that waits can complete in a later life.
-/

namespace Regnant.Osb
open Function (update update_of_ne)

/-- The broker with the incarnations of its instances: how many each instance has had, in which one
every waiting binding message was sent and from which one every binding comes. -/
structure Chronicle where
  broker : Broker
  incarnation : String → Nat := fun _ => 0
  sentIn : List Nat := []
  origin : String × String → Option Nat := fun _ => none

def Chronicle.step (settings : Settings) (s : Chronicle) (i : Step) : Chronicle :=
  let broker := s.broker.step settings i
  { broker
    incarnation := fun id =>
      if s.broker.aws.instances id = none ∧ broker.aws.instances id ≠ none then
        s.incarnation id + 1
      else s.incarnation id
    sentIn :=
      match i with
      | .request request _ _ =>
          let sent := broker.aws.bindingTasks.length - s.broker.aws.bindingTasks.length
          s.sentIn ++ List.replicate sent (s.incarnation request.instanceId)
      | .work .provision _ => s.sentIn
      | .work .binding _ => s.sentIn.tail
    origin := fun pair =>
      if s.broker.aws.bindings pair = none then
        match i with
        | .request _ _ _ => some (s.incarnation pair.2)
        | .work _ _ => s.sentIn.head?
      else s.origin pair }

abbrev Chronicle.after (settings : Settings) (steps : List Step) : Chronicle :=
  Machine.exec (Chronicle.step settings) ⟨.init, fun _ => 0, [], fun _ => none⟩ steps

/-- Every binding has its instance, in the incarnation from which the binding comes. -/
def Chronicle.Owned (s : Chronicle) : Prop :=
  ∀ bid id, s.broker.aws.bindings (bid, id) ≠ none →
    s.broker.aws.instances id ≠ none ∧ s.origin (bid, id) = some (s.incarnation id)

/-- The step removes an instance that has a binding, or makes a binding for an instance that has no
row or another incarnation than when the bind was accepted. -/
def Chronicle.Orphans (s : Chronicle) : Step → Prop
  | .request _ _ _ => False
  | .work .provision _ => ∃ receipt id bid rest,
      s.broker.aws.provisionTasks = ⟨receipt, .object (.deprovision id)⟩ :: rest ∧
        s.broker.aws.bindings (bid, id) ≠ none
  | .work .binding _ => ∃ receipt id bid payload rest,
      s.broker.aws.bindingTasks = ⟨receipt, .object (.bind id bid payload)⟩ :: rest ∧
        s.broker.aws.bindings (bid, id) = none ∧
        (s.broker.aws.instances id = none ∨ s.sentIn.head? ≠ some (s.incarnation id))

theorem after_broker (settings : Settings) (steps : List Step) :
    (Chronicle.after settings steps).broker = Broker.after settings steps :=
  (List.foldl_hom Chronicle.broker fun _ _ => rfl).symm

variable {settings : Settings} {self receipt : ExecutionName} {now id bid : String} {w w' : Aws}
  {request : Request} {response : Response} {payload : Payload} {s : Chronicle} {i : Step}

theorem row_stays_written {id' : String} {item : InstanceItem} (row : w.instances id ≠ none)
    (rows : w'.instances = update w.instances id' (some item)) : w'.instances id ≠ none := by
  rw [rows, Function.update_apply]
  split
  · simp
  · exact row

theorem Answered.row_stays (answered : Answered self now w request response w')
    (row : w.instances id ≠ none) : w'.instances id ≠ none := by
  cases answered with
  | created => exact row_stays_written row rfl
  | matched => exact row
  | updateQueued => exact row_stays_written row rfl
  | deprovisionQueued => exact row_stays_written row rfl
  | other quiet same => exact same.instances ▸ row

theorem Handled.row_stays (handled : Handled settings now receipt w payload w')
    (row : w.instances id ≠ none) (other : payload ≠ .deprovision id) : w'.instances id ≠ none := by
  cases handled with
  | provisioned => exact row_stays_written row rfl
  | updated => exact row_stays_written row rfl
  | @deprovisioned id' =>
      have apart : id ≠ id' := fun same => other (same ▸ rfl)
      simpa [Aws.acknowledged, Aws.removed, update_of_ne apart] using row
  | _ => exact row

theorem Broker.row_stays {b : Broker} (sorted : b.aws.Sorted) (row : b.aws.instances id ≠ none)
    (other : ∀ receipt rest draws, i = .work .provision draws →
      b.aws.provisionTasks ≠ ⟨receipt, .object (.deprovision id)⟩ :: rest) :
    (b.step settings i).aws.instances id ≠ none := by
  have transition : Transition settings b i (b.step settings i) := step_transition sorted i
  generalize b.step settings i = b' at transition ⊢
  cases transition with
  | answered answered => exact answered.row_stays row
  | @handled draws receipt payload rest w' head handled =>
      refine handled.row_stays row fun same => ?_
      exact other receipt rest draws rfl (same ▸ head)
  | bindingHandled same => exact same.instances ▸ row
  | idle => exact row

theorem incarnation_step (same : (s.step settings i).broker.aws.instances id = none ↔
    s.broker.aws.instances id = none) :
    (s.step settings i).incarnation id = s.incarnation id := by
  refine if_neg ?_
  rintro ⟨absent, present⟩
  exact present (same.mpr absent)

theorem owned_kept (owned : s.Owned) (sorted : s.broker.aws.Sorted) (kept : ¬s.Orphans i)
    (present : s.broker.aws.bindings (bid, id) ≠ none) :
    (s.step settings i).broker.aws.instances id ≠ none ∧
      (s.step settings i).origin (bid, id) = some ((s.step settings i).incarnation id) := by
  obtain ⟨row, origin⟩ := owned bid id present
  have row' : (s.broker.step settings i).aws.instances id ≠ none := by
    refine Broker.row_stays sorted row ?_
    rintro receipt rest draws rfl head
    exact kept ⟨receipt, id, bid, rest, head, present⟩
  refine ⟨row', ?_⟩
  rw [incarnation_step (iff_of_false row' row)]
  exact (if_neg present).trans origin

theorem binding_made {b b' : Broker} (transition : BindingTransition settings b i b')
    (absent : b.aws.bindings (bid, id) = none) (present : b'.aws.bindings (bid, id) ≠ none) :
    b'.aws.instances id = b.aws.instances id ∧
      ((∃ request serial now, i = .request request serial now ∧ b.aws.instances id ≠ none) ∨
        ∃ draws receipt payload rest, i = .work .binding draws ∧
          b.aws.bindingTasks = ⟨receipt, .object (.bind id bid payload)⟩ :: rest) := by
  cases transition with
  | @answered request serial now response w' answered =>
      cases answered with
      | @created id' bid' payload response instance' absent' accepted =>
          by_cases same : (bid, id) = (bid', id')
          · obtain ⟨rfl, rfl⟩ := Prod.mk.inj same
            exact ⟨rfl, .inl ⟨_, _, _, rfl, instance'⟩⟩
          · exact absurd ((update_of_ne same _ _).trans absent) present
      | found => exact absurd absent present
      | @unbound id' bid' service plan present' =>
          have gone : update b.aws.bindings (bid', id') none (bid, id) = none := by
            rw [Function.update_apply, absent, ite_self]
          exact absurd gone present
      | rejected => exact absurd absent present
      | other quiet same => exact absurd (same.bindings ▸ absent) present
  | @completed draws receipt id' bid' payload rest head =>
      by_cases same : (bid, id) = (bid', id')
      · obtain ⟨rfl, rfl⟩ := Prod.mk.inj same
        exact ⟨rfl, .inr ⟨_, _, _, _, rfl, head⟩⟩
      · exact absurd ((update_of_ne same _ _).trans absent) present
  | unbindHandled => exact absurd absent present
  | instanceHandled same => exact absurd (same.bindings ▸ absent) present
  | idle => exact absurd absent present

theorem owned_made (sorted : s.broker.aws.Sorted) (kept : ¬s.Orphans i)
    (absent : s.broker.aws.bindings (bid, id) = none)
    (present : (s.step settings i).broker.aws.bindings (bid, id) ≠ none) :
    (s.step settings i).broker.aws.instances id ≠ none ∧
      (s.step settings i).origin (bid, id) = some ((s.step settings i).incarnation id) := by
  obtain ⟨same, made⟩ := binding_made (step_bindingTransition sorted i) absent present
  have same' : (s.step settings i).broker.aws.instances id = s.broker.aws.instances id := same
  rw [same', incarnation_step (by rw [same'])]
  rcases made with ⟨request, serial, now, rfl, row⟩ | ⟨draws, receipt, payload, rest, rfl, head⟩
  · exact ⟨row, if_pos absent⟩
  · -- the message was sent for this incarnation
    have kept : ¬(s.broker.aws.instances id = none ∨ s.sentIn.head? ≠ some (s.incarnation id)) :=
      fun orphans => kept ⟨receipt, id, bid, payload, rest, head, absent, orphans⟩
    push Not at kept
    exact ⟨kept.1, (if_pos absent).trans kept.2⟩

theorem orphans_unowned (orphans : s.Orphans i) : ¬(s.step settings i).Owned := by
  intro owned
  cases i with
  | request => exact orphans
  | work queue draws =>
      cases queue with
      | provision =>
          obtain ⟨receipt, id, bid, rest, head, present⟩ := orphans
          have after : (s.broker.step settings (.work .provision draws)).aws =
              (Aws.removed { s.broker.aws with provisionTasks := rest } settings id).acknowledged
                .provision receipt := by
            simp only [Broker.step, Aws.tasks, head, Aws.setTasks, handle_deprovision]
          have same : (s.broker.step settings (.work .provision draws)).aws.bindings =
              s.broker.aws.bindings := by rw [after]; rfl
          have gone := (owned bid id (same ▸ present)).1
          simp [Chronicle.step, after, Aws.removed, Aws.acknowledged] at gone
      | binding =>
          obtain ⟨receipt, id, bid, payload, rest, head, absent, lost⟩ := orphans
          have after : (s.broker.step settings (.work .binding draws)).aws =
              (Aws.completed { s.broker.aws with bindingTasks := rest } id bid
                (bound draws id bid)).acknowledged .binding receipt := by
            simp only [Broker.step, Aws.tasks, head, Aws.setTasks, handle_bind]
          have made := owned bid id (by
            simp [Chronicle.step, after, Aws.completed, Aws.acknowledged])
          rw [incarnation_step (by simp [Chronicle.step, after, Aws.completed, Aws.acknowledged])]
            at made
          rcases lost with gone | lost
          · simp [Chronicle.step, after, Aws.completed, Aws.acknowledged, gone] at made
          · exact lost ((if_pos absent).symm.trans made.2)

theorem owned_step (owned : s.Owned) (sorted : s.broker.aws.Sorted) :
    (s.step settings i).Owned ↔ ¬s.Orphans i := by
  constructor
  · exact fun owned' orphans => orphans_unowned orphans owned'
  · intro kept bid id present
    by_cases absent : s.broker.aws.bindings (bid, id) = none
    · exact owned_made sorted kept absent present
    · exact owned_kept owned sorted kept absent

/-- In every state of a run each binding belongs to the incarnation of its instance that it was
accepted for, exactly when no step of the run orphans a binding. -/
theorem bindings_owned_iff (settings : Settings) (steps : List Step) :
    (∀ before, before <+: steps → (Chronicle.after settings before).Owned) ↔
      Machine.Along (Chronicle.step settings) (fun s i => ¬s.Orphans i)
        ⟨.init, fun _ => 0, [], fun _ => none⟩ steps := by
  refine Machine.invariant_iff_along (I := Chronicle.Owned)
    (J := fun s : Chronicle => s.broker.aws.Sorted) _ ?_ ?_ Aws.Sorted.init ?_
  · exact fun s i sorted => sorted.step i
  · exact fun s i sorted owned => owned_step owned sorted
  · exact fun bid id present => absurd rfl present

def abandonedBinding : List Step :=
  let create : Step := .request (.provision "a" ⟨"s", "p", ∅, ∅⟩ true) 0 "now"
  let bind : Step := .request (.bind "a" "b" ⟨"s", "p", ∅⟩) 1 "now"
  let remove : Step := .request (.deprovision "a" "s" "p" true) 2 "now"
  let work : Step := .work .provision ⟨"now", "token"⟩
  [create, bind, remove, work, work]

theorem bindings_not_always_owned :
    ¬∀ settings steps, (Chronicle.after settings steps).Owned := by
  intro always
  have owned := always {} abandonedBinding "b" "a"
  rw [after_broker] at owned
  exact (owned (by decide)).1 (by decide)

end Regnant.Osb
