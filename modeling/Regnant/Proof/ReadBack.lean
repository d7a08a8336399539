import Regnant.Proof.Transitions

/-!
# Stored rows read back

`InstanceStore.transition` makes a row when there is none, and such a row lacks what
`InstanceStore.create` writes. Rows read back exactly in the runs in which no provision message is
handled after its row is gone.
-/

namespace Regnant.Osb
open Function (update)

/-- Every row is complete, and reading any instance does not end in a `KeyError`. -/
structure Aws.ReadsBack (w : Aws) : Prop where
  complete : ∀ id item, w.instances id = some item → item.Complete
  get : ∀ self id key, ((InstanceStore.get id).run (perform self) w).1 ≠ .error (.keyError key)

theorem InstanceItem.not_complete_apply_empty (u : InstanceUpdate) :
    ¬(u.apply ({} : InstanceItem)).Complete :=
  fun complete => by cases complete.serviceId

theorem Aws.readsBack_iff {w : Aws} :
    w.ReadsBack ↔ ∀ id item, w.instances id = some item → item.Complete := by
  refine ⟨fun reads => reads.complete, fun complete => ⟨complete, fun self id key => ?_⟩⟩
  cases row : w.instances id with
  | none => simp [run_get_none row]
  | some item =>
      obtain ⟨inst, read⟩ := (complete id item row).read id
      simp [run_get_some row, read]

theorem Aws.readsBack_update {w w' : Aws} (reads : w.ReadsBack) {id : String} {item : InstanceItem}
    (row : w'.instances = update w.instances id (some item)) : w'.ReadsBack ↔ item.Complete := by
  rw [readsBack_iff, row]
  constructor
  · intro complete
    exact complete id item (by simp)
  · intro complete id' item' row'
    rw [Function.update_apply] at row'
    split at row'
    · cases row'
      exact complete
    · exact reads.complete id' item' row'

/-- The step handles a provision message, with parameters that render, of an instance that has no
row any more. -/
def Broker.Resurrects (s : Broker) : Step → Prop
  | .work .provision _ => ∃ receipt id payload rest,
      s.aws.provisionTasks = ⟨receipt, .object (.provision id payload)⟩ :: rest ∧
        s.aws.instances id = none ∧
        Renders id payload.serviceId payload.planId payload.parameters
  | _ => False

theorem readsBack_handled {settings : Settings} {now : String} {receipt : ExecutionName}
    {w w' : Aws} {payload : Payload} (reads : w.ReadsBack)
    (handled : Handled settings now receipt w payload w') :
    w'.ReadsBack ↔ ¬∃ id request, payload = .provision id request ∧ w.instances id = none ∧
      Renders id request.serviceId request.planId request.parameters := by
  cases handled with
  | @provisioned id request document rendered =>
      rw [Aws.readsBack_update reads rfl]
      cases row : w.instances id with
      | none =>
          -- the transition makes a row, without what `InstanceStore.create` writes
          refine iff_of_false (InstanceItem.not_complete_apply_empty _) (not_not_intro ?_)
          exact ⟨id, request, rfl, row, renders_iff.mpr ⟨document, rendered⟩⟩
      | some item =>
          refine iff_of_true ((reads.complete id item row).apply _) ?_
          rintro ⟨id', request', same, absent, -⟩
          obtain ⟨rfl, rfl⟩ := Payload.provision_inj.mp same
          simp [row] at absent
  | @provisionFailed id request fails =>
      refine iff_of_true reads ?_
      rintro ⟨id', request', same, -, renders⟩
      obtain ⟨rfl, rfl⟩ := Payload.provision_inj.mp same
      exact fails renders
  | updated present read rendered =>
      rw [Aws.readsBack_update reads rfl, present]
      exact iff_of_true ((reads.complete _ _ present).apply _) (by simp)
  | updateFailed => exact iff_of_true reads (by simp)
  | updateUnreadable => exact iff_of_true reads (by simp)
  | updateMissed => exact iff_of_true (Aws.readsBack_iff.mpr reads.complete) (by simp)
  | @deprovisioned id =>
      refine iff_of_true (Aws.readsBack_iff.mpr fun id' item row => ?_) (by simp)
      simp only [Aws.acknowledged, Aws.removed, Function.update_apply] at row
      split at row
      · cases row
      · exact reads.complete id' item row

theorem readsBack_answered {self : ExecutionName} {now : String} {w w' : Aws} {request : Request}
    {response : Response} (reads : w.ReadsBack)
    (answered : Answered self now w request response w') : w'.ReadsBack := by
  cases answered with
  | created valid absent => exact (Aws.readsBack_update reads rfl).mpr (.newItem _ _ _ _ _)
  | matched => exact reads
  | updateQueued present read =>
      exact (Aws.readsBack_update reads rfl).mpr ((reads.complete _ _ present).apply _)
  | deprovisionQueued present read =>
      exact (Aws.readsBack_update reads rfl).mpr ((reads.complete _ _ present).apply _)
  | other quiet same =>
      rw [Aws.readsBack_iff, same.instances]
      exact reads.complete

theorem readsBack_step {settings : Settings} {s s' : Broker} {i : Step} (reads : s.aws.ReadsBack)
    (transition : Transition settings s i s') : s'.aws.ReadsBack ↔ ¬s.Resurrects i := by
  cases transition with
  | answered answered => exact iff_of_true (readsBack_answered reads answered) id
  | @handled draws receipt payload rest w' head handled =>
      have reads_rest : ({ s.aws with provisionTasks := rest } : Aws).ReadsBack :=
        Aws.readsBack_iff.mpr reads.complete
      rw [readsBack_handled reads_rest handled, Broker.Resurrects, head]
      simp
  | bindingHandled same =>
      refine iff_of_true ?_ id
      rw [Aws.readsBack_iff, same.instances]
      exact reads.complete
  | @idle queue draws empty =>
      refine iff_of_true reads ?_
      cases queue with
      | provision =>
          rintro ⟨receipt, id, payload, rest, head, -⟩
          simp_all [Aws.tasks]
      | binding => exact id

/-- Rows read back in every state of a run exactly when the run handles no provision message of an
instance without a row. -/
theorem rows_read_back_iff (settings : Settings) (steps : List Step) :
    (∀ before, before <+: steps → (Broker.after settings before).aws.ReadsBack) ↔
      Machine.Along (Broker.step settings) (fun s i => ¬s.Resurrects i) .init steps :=
  Machine.invariant_iff_along (I := fun s : Broker => s.aws.ReadsBack)
    (J := fun s : Broker => s.aws.Sorted) _ (fun _ i sorted => sorted.step i)
    (fun _ i sorted reads => readsBack_step reads (step_transition sorted i)) Aws.Sorted.init
    (Aws.readsBack_iff.mpr fun _ _ row => by cases row)

/-! ## A row that does not read back

Two deprovision messages are queued, and the second removes the row of the next incarnation before
that one's provision message is handled. -/

def resurrection : List Step :=
  let create : Step := .request (.provision "a" ⟨"s", "p", ∅, ∅⟩ true) 0 "now"
  let remove : Step := .request (.deprovision "a" "s" "p" true) 1 "now"
  let work : Step := .work .provision ⟨"now", "token"⟩
  [create, remove, remove, work, work, create, work, work]

theorem rows_not_always_readable :
    ¬∀ settings steps, (Broker.after settings steps).aws.ReadsBack := by
  intro always
  have row : ((Broker.after {} resurrection).aws.instances "a").map (·.serviceId) = some none := by
    decide
  obtain ⟨item, present, missing⟩ := Option.map_eq_some_iff.mp row
  have complete := ((always {} resurrection).complete "a" item present).serviceId
  simp [missing] at complete

end Regnant.Osb
