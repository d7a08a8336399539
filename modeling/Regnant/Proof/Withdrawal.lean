import Regnant.Proof.BindingEffects
import Regnant.Proof.LastOperation

namespace Regnant.Osb
open Function (update_self update_of_ne)

def Aws.Withdrawn (w : Aws) (id : String) : Prop :=
  ∃ item inst, w.instances id = some item ∧ instanceFromItem id item = .ok inst ∧
    inst.state = .deprovisioning

/-- The row is `deprovisioning`, no bind of the instance is accepted, and no poll reports that its
last operation succeeded. -/
structure Aws.Deprovisioning (w : Aws) (id : String) : Prop where
  row : w.Withdrawn id
  binds : ∀ self now bid payload, ¬(w.answer self now (.bind id bid payload)).1.accepted
  polls : ¬w.Succeeded id

namespace Broker

def AcceptsDelete (id : String) (s : Broker) : Step → Prop
  | .request request serial now =>
      (s.aws.answer ⟨request.instanceId, serial⟩ now request).1.accepted ∧
        ∃ service plan, request = .deprovision id service plan true
  | _ => False

def RemovesRow (settings : Settings) (id : String) (s : Broker) (i : Step) : Prop :=
  (s.step settings i).aws.instances id = none

/-- The step is a PATCH of a withdrawn instance, or completes a provision or update message of one.
-/
def Reverts (s : Broker) : Step → Prop
  | .request request _ _ => ∃ id payload, request = .update id payload true ∧ s.aws.Withdrawn id
  | .work .provision _ => ∃ receipt payload rest,
      s.aws.provisionTasks = ⟨receipt, .object payload⟩ :: rest ∧
        ∃ id, payload.instanceId = some id ∧ payload.op ≠ some .deprovision ∧ payload.Renders ∧
          s.aws.Withdrawn id
  | .work .binding _ => False

end Broker

variable {settings : Settings} {self receipt : ExecutionName} {now id id' : String} {w w' : Aws}
  {payload : Payload} {request : Request} {response : Response} {s : Broker} {i : Step}
  {item : InstanceItem} {inst : Instance} {u : InstanceUpdate}

theorem deprovisioning_iff : w.Deprovisioning id ↔ w.Withdrawn id := by
  refine ⟨fun here => here.row, fun here => ⟨here, fun self now bid payload => ?_, ?_⟩⟩
  · obtain ⟨item, inst, row, read, state⟩ := here
    have unbindable : ¬inst.state.bindable := by
      rw [state]
      decide
    rw [answer_bind_unbindable row read unbindable]
    simp [Response.accepted]
  · rw [succeeded_iff]
    rintro ⟨item', inst', row', read', succeeded⟩
    obtain ⟨item, inst, row, read, state⟩ := here
    obtain rfl := Option.some.inj (row.symm.trans row')
    obtain rfl := Except.ok.inj (read.symm.trans read')
    rw [state] at succeeded
    cases succeeded

theorem withdrawn_of_same (same : w'.instances id = w.instances id) :
    w'.Withdrawn id ↔ w.Withdrawn id := by
  rw [Aws.Withdrawn, same, Aws.Withdrawn]

theorem withdrawn_written (row : w'.instances id = some (u.apply item)) :
    w'.Withdrawn id → u.state = .deprovisioning := by
  rintro ⟨item', inst, row', read, state⟩
  obtain rfl := Option.some.inj (row.symm.trans row')
  have written := (instanceFromItem_ok read).2.2.1
  exact (Option.some.inj written).trans state

/-! ## Requests -/

structure Aws.Withdraws (w w' : Aws) (deleted : String → Prop) (revived : Prop) : Prop where
  stays : ¬revived → ∀ id, w.Withdrawn id → w'.instances id = none ∨ w'.Withdrawn id
  leaves : revived → ∃ id, w.Withdrawn id ∧ w'.instances id ≠ none ∧ ¬w'.Withdrawn id
  begins : ∀ id, w'.Withdrawn id → ¬deleted id → w.Withdrawn id
  opened : ∀ id, deleted id → w'.Withdrawn id

section Rows
variable {deleted : String → Prop} {revived : Prop}

theorem Aws.Withdraws.unchanged (same : w'.instances = w.instances) (kept : ∀ id, ¬deleted id)
    (quiet : ¬revived) : w.Withdraws w' deleted revived where
  stays _ id here := .inr ((withdrawn_of_same (congrFun same id)).mpr here)
  leaves := fun revived => absurd revived quiet
  begins id here _ := (withdrawn_of_same (congrFun same id)).mp here
  opened id opened := absurd opened (kept id)

theorem Aws.Withdraws.written (rows : w'.instances = Function.update w.instances id
      (some (u.apply item))) (state : u.state ≠ .deprovisioning) (kept : ∀ id, ¬deleted id)
    (own : revived ↔ w.Withdrawn id) : w.Withdraws w' deleted revived := by
  have row : w'.instances id = some (u.apply item) := by rw [rows, update_self]
  have lost : ¬w'.Withdrawn id := fun here => state (withdrawn_written row here)
  have others : ∀ id', id' ≠ id → (w'.Withdrawn id' ↔ w.Withdrawn id') :=
    fun id' other => withdrawn_of_same (by rw [rows, update_of_ne other])
  refine ⟨fun quiet id' here => ?_, fun revived => ?_, fun id' here _ => ?_, ?_⟩
  · exact .inr ((others id' fun same => quiet (own.mpr (same ▸ here))).mpr here)
  · exact ⟨id, own.mp revived, by simp [row], lost⟩
  · exact (others id' fun same => lost (same ▸ here)).mp here
  · exact fun id' opened => absurd opened (kept id')

theorem withdraws_created (absent : w.instances id = none) (self : ExecutionName) (now : String)
    (payload : ProvisionRequest) (kept : ∀ id, ¬deleted id) (quiet : ¬revived) :
    w.Withdraws (w.created self now id payload) deleted revived := by
  have others : ∀ id', id' ≠ id →
      ((w.created self now id payload).Withdrawn id' ↔ w.Withdrawn id') :=
    fun id' other => withdrawn_of_same (update_of_ne other _ _)
  refine ⟨fun _ id' here => ?_, fun revived => absurd revived quiet, fun id' here _ => ?_,
    fun id' opened => absurd opened (kept id')⟩
  · refine .inr ((others id' ?_).mpr here)
    rintro rfl
    obtain ⟨item, inst, row, -⟩ := here
    simp [absent] at row
  · refine (others id' ?_).mp here
    rintro rfl
    obtain ⟨item, inst, row, read, state⟩ := here
    simp only [Aws.created, update_self, Option.some.injEq] at row
    subst row
    cases read
    cases state

end Rows

theorem withdraws_answered (answered : Answered self now w request response w') :
    w.Withdraws w'
      (fun id => response.accepted ∧ ∃ service plan, request = .deprovision id service plan true)
      (response.accepted ∧ ∃ id payload, request = .update id payload true ∧ w.Withdrawn id) := by
  cases answered with
  | created valid absent => exact withdraws_created absent self now _ (by simp) (by simp)
  | matched => exact .unchanged rfl (by simp) (by simp)
  | updateQueued present read =>
      exact .written rfl (by simp [updateQueued]) (by simp) (by simp [Response.accepted])
  | @deprovisionQueued id item inst present read =>
      have own : (w.deprovisionQueued self now id item).Withdrawn id :=
        ⟨_, _, update_self .., instanceFromItem_apply read _, rfl⟩
      have others : ∀ id', id' ≠ id →
          ((w.deprovisionQueued self now id item).Withdrawn id' ↔ w.Withdrawn id') :=
        fun id' other => withdrawn_of_same (update_of_ne other _ _)
      refine ⟨fun _ id' here => ?_, by simp, fun id' here kept => ?_, ?_⟩
      · by_cases same : id' = id
        · exact .inr (same ▸ own)
        · exact .inr ((others id' same).mpr here)
      · refine (others id' fun same => kept ?_).mp here
        exact ⟨by simp [Response.accepted], _, _, by rw [same]⟩
      · rintro id' ⟨-, service, plan, same⟩
        cases same
        exact own
  | other quiet same =>
      refine .unchanged same.instances ?_ ?_
      · rintro id ⟨accepted, service, plan, rfl⟩
        exact quiet ⟨accepted, trivial⟩
      · rintro ⟨accepted, id, payload, rfl, -⟩
        exact quiet ⟨accepted, trivial⟩

/-! ## Handlings -/

theorem Aws.Withdrawn.present (here : w.Withdrawn id) : w.instances id ≠ none := by
  obtain ⟨item, inst, row, -⟩ := here
  simp [row]

theorem revived_iff (about : payload.instanceId = some id) (kind : payload.op ≠ some .deprovision)
    (renders : payload.Renders) :
    (∃ id, payload.instanceId = some id ∧ payload.op ≠ some .deprovision ∧ payload.Renders ∧
      w.Withdrawn id) ↔ w.Withdrawn id := by
  simp [about, kind, renders]

theorem withdraws_handled (handled : Handled settings now receipt w payload w') :
    w.Withdraws w' (fun _ => False) (∃ id, payload.instanceId = some id ∧
      payload.op ≠ some .deprovision ∧ payload.Renders ∧ w.Withdrawn id) := by
  cases handled with
  | @provisioned id payload document rendered =>
      have renders : (Payload.provision id payload).Renders := by
        rintro _ ⟨⟩ _ ⟨⟩ _ ⟨⟩
        exact renders_iff.mpr ⟨document, rendered⟩
      exact .written rfl (by simp [provisioned]) (by simp)
        (revived_iff rfl (by simp [Payload.provision]) renders)
  | @provisionFailed id payload fails =>
      refine .unchanged rfl (by simp) ?_
      rintro ⟨id', -, -, renders, -⟩
      exact fails (renders id rfl _ rfl _ rfl)
  | @updated id service plan parameters item inst document present read rendered =>
      have renders : (Payload.update id service plan parameters).Renders := by
        rintro _ ⟨⟩ _ ⟨⟩ _ ⟨⟩
        exact renders_iff.mpr ⟨document, rendered⟩
      exact .written rfl (by simp [updated]) (by simp)
        (revived_iff rfl (by simp [Payload.update]) renders)
  | @updateFailed id service plan parameters item present fails =>
      refine .unchanged rfl (by simp) ?_
      rintro ⟨id', -, -, renders, -⟩
      exact fails (renders id rfl _ rfl _ rfl)
  | @updateUnreadable id service plan parameters item e present unreadable =>
      refine .unchanged rfl (by simp) ?_
      rintro ⟨id', ⟨⟩, -, -, item', inst, row, read, -⟩
      obtain rfl := Option.some.inj (present.symm.trans row)
      cases unreadable.symm.trans read
  | updateMissed absent =>
      refine .unchanged rfl (by simp) ?_
      rintro ⟨id', ⟨⟩, -, -, here⟩
      exact here.present absent
  | @deprovisioned id =>
      have others : ∀ id', id' ≠ id →
          (((w.removed settings id).acknowledged .provision receipt).Withdrawn id' ↔
            w.Withdrawn id') := fun id' other => withdrawn_of_same (update_of_ne other _ _)
      have gone : ((w.removed settings id).acknowledged .provision receipt).instances id = none :=
        update_self ..
      refine ⟨fun _ id' here => ?_, by simp [Payload.deprovision], fun id' here _ => ?_, by simp⟩
      · by_cases same : id' = id
        · exact .inl (same ▸ gone)
        · exact .inr ((others id' same).mpr here)
      · refine (others id' ?_).mp here
        rintro rfl
        exact here.present gone

/-! ## Steps -/

theorem withdraws_request (serial : Nat) (now : String) (request : Request) :
    s.aws.Withdraws (s.step settings (.request request serial now)).aws
      (fun id => s.AcceptsDelete id (.request request serial now))
      (s.Reverts (.request request serial now)) := by
  have withdraws := withdraws_answered (answered ⟨request.instanceId, serial⟩ now s.aws request)
  refine ⟨fun kept => withdraws.stays fun revived => kept revived.2, ?_, withdraws.begins,
    withdraws.opened⟩
  -- a PATCH of a row that reads back is accepted
  rintro ⟨id, payload, rfl, here⟩
  refine withdraws.leaves ⟨?_, id, payload, rfl, here⟩
  obtain ⟨item, inst, row, read, -⟩ := here
  rw [answer_update_present row, read]
  simp [Response.accepted]

theorem withdraws_work {queue : QueueName} {draws : Draws} {s' : Broker}
    (transition : Transition settings s (.work queue draws) s') :
    s.aws.Withdraws s'.aws (fun id => s.AcceptsDelete id (.work queue draws))
      (s.Reverts (.work queue draws)) := by
  cases transition with
  | @handled _ receipt payload rest _ head handled =>
      have own : s.Reverts (.work .provision draws) ↔ ∃ id, payload.instanceId = some id ∧
          payload.op ≠ some .deprovision ∧ payload.Renders ∧ s.aws.Withdrawn id := by
        simp [Broker.Reverts, head]
      rw [own]
      obtain ⟨stays, leaves, begins, opened⟩ := withdraws_handled handled
      exact ⟨stays, leaves, begins, opened⟩
  | bindingHandled same => exact .unchanged same.instances (fun _ => id) id
  | idle empty =>
      refine .unchanged rfl (fun _ => id) fun revived => ?_
      cases queue with
      | provision =>
          obtain ⟨receipt, payload, rest, head, -⟩ := revived
          simp [Aws.tasks, head] at empty
      | binding => exact revived

theorem withdraws_step (settings : Settings) (sorted : s.aws.Sorted) (i : Step) :
    s.aws.Withdraws (s.step settings i).aws (fun id => s.AcceptsDelete id i) (s.Reverts i) := by
  cases i with
  | request request serial now => exact withdraws_request serial now request
  | work queue draws => exact withdraws_work (step_transition sorted _)

/-- From the acceptance of a DELETE until its row is removed an instance stays withdrawn, exactly in
the runs in which no step reverts a withdrawn instance. -/
theorem deprovisioning_absorbing_iff (settings : Settings) (steps : List Step) :
    (∀ id, Machine.Spans (Broker.step settings) (Broker.AcceptsDelete id)
      (fun s => s.aws.Deprovisioning id) (Broker.RemovesRow settings id) .init steps) ↔
      Machine.Along (Broker.step settings) (fun s i => ¬s.Reverts i) .init steps := by
  simp only [deprovisioning_iff]
  refine Machine.spans_iff_along (J := fun s : Broker => s.aws.Sorted)
    (P := fun id s => s.aws.Withdrawn id) (Q := Broker.RemovesRow settings) _
    (fun _ i sorted => sorted.step i) ?_ ?_ ?_ Aws.Sorted.init ?_
  · exact fun s i id sorted accepted => (withdraws_step settings sorted i).opened id accepted
  · intro s i id sorted here kept
    exact ⟨(withdraws_step settings sorted i).begins id here kept, here.present⟩
  · intro s i sorted
    refine ⟨fun stays revived => ?_, (withdraws_step settings sorted i).stays⟩
    obtain ⟨id, here, row, lost⟩ := (withdraws_step settings sorted i).leaves revived
    exact (stays id here).elim row lost
  · rintro id ⟨item, inst, row, -⟩
    cases row

/-! ## A DELETE that is overtaken

The provision message that was sent before the DELETE makes the row available again. -/

def overtakenDelete : List Step :=
  [.request (.provision "a" ⟨"s", "p", ∅, ∅⟩ true) 0 "now",
   .request (.deprovision "a" "s" "p" true) 1 "now",
   .work .provision ⟨"now", "token"⟩]

theorem deprovisioning_not_always_absorbing :
    ¬∀ settings steps id, Machine.Spans (Broker.step settings) (Broker.AcceptsDelete id)
      (fun s => s.aws.Deprovisioning id) (Broker.RemovesRow settings id) .init steps := by
  intro always
  have spans := always {} overtakenDelete "a" (overtakenDelete.take 1) _ (overtakenDelete.drop 2)
    rfl ⟨by decide, "s", "p", rfl⟩
  have available : ((Broker.after {} overtakenDelete).aws.instances "a").bind (·.state) =
      some .available := by decide
  obtain ⟨-, removed | ⟨⟨item, inst, row, read, state⟩, -, -⟩⟩ := spans
  · have gone : (Broker.after {} overtakenDelete).aws.instances "a" = none := removed
    simp [gone] at available
  · have row' : (Broker.after {} overtakenDelete).aws.instances "a" = some item := row
    rw [row', Option.bind_some, (instanceFromItem_ok read).2.2.1, state] at available
    cases available

end Regnant.Osb
