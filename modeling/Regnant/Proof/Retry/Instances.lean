import Regnant.Proof.Retry.Repeating

namespace Regnant.Osb
open Function (update)

variable {settings : Settings} {w w' : Aws} {self : ExecutionName} {now id : String} {n : Nat}
  {effect : Bool}

/-! ## Provision -/

def Aws.withNewRow (w : Aws) (now id : String) (payload : ProvisionRequest) : Aws :=
  w.withRow id (InstanceStore.newItem now payload.serviceId payload.planId payload.parameters
    payload.context)

section Provision
variable {payload : ProvisionRequest}

theorem cut_provision_absent (valid : validInstanceId id) (absent : w.instances id = none) :
    w.cut self now (.provision id payload true) n effect =
      match n, effect with
      | 0, _ | 1, false => w
      | 1, true | 2, false => w.withNewRow now id payload
      | _, _ => w.created self now id payload := by
  obtain ⟨inst, read⟩ : ∃ inst, instanceFromItem id (InstanceStore.newItem now payload.serviceId
      payload.planId payload.parameters payload.context) = .ok inst := ⟨_, rfl⟩
  match n with
  | 0 => simp [Aws.cut, app, valid, respond, provisionInstance, InstanceStore.getOrNone,
      InstanceStore.get, CallTree.invoke, perform]
  | 1 =>
      cases effect <;> simp [Aws.cut, app, valid, respond, provisionInstance,
        InstanceStore.getOrNone, InstanceStore.get, CallTree.invoke, perform, absent, osbError,
        InstanceStore.create, Aws.withNewRow, Aws.withRow]
  | 2 =>
      cases effect <;> simp [Aws.cut, app, valid, respond, provisionInstance,
        InstanceStore.getOrNone, InstanceStore.get, CallTree.invoke, perform, absent, osbError,
        InstanceStore.create, read, TaskQueue.send, Aws.withNewRow, Aws.withRow, Aws.created]
  | n + 3 =>
      simp [Aws.cut, app, valid, respond, provisionInstance,
        InstanceStore.getOrNone, InstanceStore.get, CallTree.invoke, perform, absent, osbError,
        InstanceStore.create, read, TaskQueue.send, Aws.created]

theorem cut_provision_present {item : InstanceItem} (valid : validInstanceId id)
    (present : w.instances id = some item) :
    w.cut self now (.provision id payload true) n effect = w := by
  cases n with
  | zero => simp [Aws.cut, app, valid, respond, provisionInstance, InstanceStore.getOrNone,
      InstanceStore.get, CallTree.invoke, perform]
  | succ n =>
      cases read : instanceFromItem id item with
      | ok inst =>
          by_cases same : inst.serviceId = payload.serviceId ∧ inst.planId = payload.planId
          all_goals simp [Aws.cut, app, valid, respond, provisionInstance,
            InstanceStore.getOrNone, InstanceStore.get, CallTree.invoke, perform, present, read,
            same, osbError]
      | error e =>
          obtain ⟨key, rfl⟩ := instanceFromItem_error read
          simp [Aws.cut, app, valid, respond, provisionInstance, InstanceStore.getOrNone,
            InstanceStore.get, CallTree.invoke, perform, present, read]

theorem cut_provision_refused {incomplete : Bool}
    (refused : ¬(validInstanceId id ∧ incomplete = true)) :
    w.cut self now (.provision id payload incomplete) n effect = w := by
  by_cases valid : validInstanceId id
  · cases incomplete with
    | true => exact absurd ⟨valid, rfl⟩ refused
    | false => simp [Aws.cut, app, valid, respond, provisionInstance, osbError]
  · simp [Aws.cut, app, valid]

theorem answer_provision_refused {incomplete : Bool}
    (refused : ¬(validInstanceId id ∧ incomplete = true)) :
    (w.answer self now (.provision id payload incomplete)).2 = w := by
  by_cases valid : validInstanceId id
  · cases incomplete with
    | true => exact absurd ⟨valid, rfl⟩ refused
    | false => rw [answer_provision_sync valid]
  · rw [answer_provision_invalid valid]

theorem answer_provision_own (self : ExecutionName) (now' : String)
    (valid : validInstanceId id)
    (row : w.instances id = some (InstanceStore.newItem now payload.serviceId payload.planId
      payload.parameters payload.context)) :
    w.answer self now' (.provision id payload true) = (⟨202, .operation "provision"⟩, w) := by
  rw [answer_provision_present valid row]
  simp [instanceFromItem, require, InstanceStore.newItem, bind, Except.bind, pure, Except.pure]

theorem created_reaches (id : String) (payload : ProvisionRequest) (idle : w.Idle)
    (self : ExecutionName) (now now' : String) :
    (w.created self now id payload).Reaches (w.withNewRow now' id payload) .provision
      (.provision id payload) :=
  queued_reaches (begun_self idle id _) self rfl

theorem cuts_provision_absent (valid : validInstanceId id) (absent : w.instances id = none) :
    (∀ self now, w.cut self now (.provision id payload true) n effect = w) ∨
      (∀ self now, w.cut self now (.provision id payload true) n effect =
        w.created self now id payload) ∨
      (n = 1 ∧ effect = true ∨ n = 2 ∧ effect = false) ∧
        ∀ self now, w.cut self now (.provision id payload true) n effect =
          w.withNewRow now id payload := by
  rcases n with _ | _ | _ | n <;> cases effect <;> simp [cut_provision_absent valid absent]

theorem completes_provision_absent (idle : w.Idle) (valid : validInstanceId id)
    (absent : w.instances id = none)
    (kept : Renders id payload.serviceId payload.planId payload.parameters →
      ¬(n = 1 ∧ effect = true ∨ n = 2 ∧ effect = false)) :
    w.Completes settings (.provision id payload true) n effect := by
  have uncut (self : ExecutionName) (now : String) :
      w.answer self now (.provision id payload true) =
        (⟨202, .operation "provision"⟩, w.created self now id payload) :=
    answer_provision_absent valid absent
  have reaches (self : ExecutionName) (now : String) :
      (w.answer self now (.provision id payload true)).2.Reaches (w.withNewRow "" id payload)
        .provision (.provision id payload) := by
    rw [uncut]
    exact created_reaches id payload idle _ _ _
  rcases cuts_provision_absent valid absent with cut | cut | ⟨here, cut⟩
  · refine completes_of_requeued .provision (repeatable_provision settings id payload) ?_ reaches
    intro self now retried again
    rw [cut] at again
    obtain ⟨self', now', rfl⟩ := again.of_accepted fun self now => by
      simp [uncut, Response.accepted]
    exact reaches self' now'
  · refine completes_of_requeued .provision (repeatable_provision settings id payload) ?_ reaches
    intro self now retried again
    rw [cut] at again
    obtain rfl := again.of_unchanged fun self' now' => by
      rw [answer_provision_own self' now' valid (Function.update_self _ _ _)]
    exact created_reaches id payload idle _ _ _
  · -- the message is missing, but its handling would have changed nothing
    have fails : ¬Renders id payload.serviceId payload.planId payload.parameters :=
      fun renders => kept renders here
    intro self self' now now' retried final final' again drained drained'
    rw [cut] at again
    rw [uncut] at drained'
    obtain rfl := again.of_unchanged fun self' now' => by
      rw [answer_provision_own self' now' valid (Function.update_self _ _ _)]
    have idle' : (w.withNewRow now id payload).Idle := ⟨idle.provision, idle.binding⟩
    obtain rfl := drained.of_idle idle'
    have created := created_reaches id payload idle self' now' now
    have handled := drained_once (repeatable_provision settings id payload) ⟨"", ""⟩ ⟨id, 0⟩
      created.waiting created.only created.same drained'
    rw [handle_provision_fails fails] at handled
    exact handled.symm

theorem completes_provision (idle : w.Idle) {incomplete : Bool}
    (kept : ¬(validInstanceId id ∧ incomplete = true ∧ w.instances id = none ∧
      Renders id payload.serviceId payload.planId payload.parameters ∧
      (n = 1 ∧ effect = true ∨ n = 2 ∧ effect = false))) :
    w.Completes settings (.provision id payload incomplete) n effect := by
  by_cases taken : validInstanceId id ∧ incomplete = true
  · obtain ⟨valid, rfl⟩ := taken
    cases row : w.instances id with
    | some item =>
        refine completes_of_unchanged idle (fun _ _ => cut_provision_present valid row) ?_
        intro self now
        rw [answer_provision_present valid row]
    | none =>
        exact completes_provision_absent idle valid row fun renders here =>
          kept ⟨valid, rfl, row, renders, here⟩
  · exact completes_of_unchanged idle (fun _ _ => cut_provision_refused taken)
      fun _ _ => answer_provision_refused taken

end Provision

/-! ## Update -/

section Update
variable {s : Aws} {payload : UpdateRequest} {item : InstanceItem} {inst : Instance}

theorem cut_update_readable (present : w.instances id = some item)
    (read : instanceFromItem id item = .ok inst) :
    w.cut self now (.update id payload true) n effect =
      match n, effect with
      | 0, _ | 1, false => w
      | 1, true | 2, false => w.withRow id ((updateQueued now payload inst).apply item)
      | _, _ => w.updateQueued self now id payload item inst := by
  match n with
  | 0 => simp [Aws.cut, app, respond, updateInstance, InstanceStore.get, CallTree.invoke, perform]
  | 1 =>
      cases effect <;> simp [Aws.cut, app, respond, updateInstance, InstanceStore.get,
        CallTree.invoke, perform, present, read, InstanceStore.transition, Aws.withRow,
        Osb.updateQueued]
  | 2 =>
      cases effect <;> simp [Aws.cut, app, respond, updateInstance, InstanceStore.get,
        CallTree.invoke, perform, present, read, InstanceStore.transition, TaskQueue.send,
        Aws.withRow, Aws.updateQueued, Osb.updateQueued]
  | n + 3 =>
      simp [Aws.cut, app, respond, updateInstance, InstanceStore.get, CallTree.invoke, perform,
        present, read, InstanceStore.transition, TaskQueue.send, Aws.updateQueued,
        Osb.updateQueued]

theorem cut_update_refused {incomplete : Bool}
    (refused : ¬(incomplete = true ∧
      ∃ item ∈ w.instances id, ∃ inst, instanceFromItem id item = .ok inst)) :
    w.cut self now (.update id payload incomplete) n effect = w := by
  cases incomplete with
  | false => simp [Aws.cut, app, respond, updateInstance, osbError]
  | true =>
      cases n with
      | zero =>
          simp [Aws.cut, app, respond, updateInstance, InstanceStore.get, CallTree.invoke, perform]
      | succ n =>
          cases row : w.instances id with
          | none =>
              simp [Aws.cut, app, respond, updateInstance, InstanceStore.get, CallTree.invoke,
                perform, row, osbError]
          | some item =>
              cases read : instanceFromItem id item with
              | ok inst => exact absurd ⟨rfl, item, row, inst, read⟩ refused
              | error e =>
                  obtain ⟨key, rfl⟩ := instanceFromItem_error read
                  simp [Aws.cut, app, respond, updateInstance, InstanceStore.get, CallTree.invoke,
                    perform, row, read]

theorem answer_update_refused {incomplete : Bool}
    (refused : ¬(incomplete = true ∧
      ∃ item ∈ w.instances id, ∃ inst, instanceFromItem id item = .ok inst)) :
    (w.answer self now (.update id payload incomplete)).2 = w := by
  cases incomplete with
  | false => rw [answer_update_sync]
  | true =>
      cases row : w.instances id with
      | none => rw [answer_update_absent row]
      | some item =>
          rw [answer_update_present row]
          cases read : instanceFromItem id item with
          | ok inst => exact absurd ⟨rfl, item, row, inst, read⟩ refused
          | error e => rfl

theorem planOr_planOr (planId : Option String) (current : String) :
    planOr planId (planOr planId current) = planOr planId current := by
  cases planId with
  | none => rfl
  | some plan => by_cases empty : plan = "" <;> simp [planOr, empty]

theorem updateQueued_again (now : String) (payload : UpdateRequest)
    (read : instanceFromItem id item = .ok inst) :
    ∃ inst', instanceFromItem id ((updateQueued now payload inst).apply item) = .ok inst' ∧
      planOr payload.planId inst'.planId = planOr payload.planId inst.planId ∧
      inst'.parameters.merge payload.parameters = inst.parameters.merge payload.parameters ∧
      ∀ now', (updateQueued now payload inst).Alike (updateQueued now' payload inst') := by
  have plan := planOr_planOr payload.planId inst.planId
  have parameters := Dict.merge_merge_self inst.parameters payload.parameters
  refine ⟨_, instanceFromItem_apply read _, plan, parameters, fun now' => ?_⟩
  simp [InstanceUpdate.Alike, updateQueued, plan, parameters]

theorem retried_update (begun : s.Begun w id (.update id payload.serviceId
      (planOr payload.planId inst.planId) (inst.parameters.merge payload.parameters)))
    {item' : InstanceItem} {inst' : Instance} (present : s.instances id = some item')
    (read : instanceFromItem id item' = .ok inst')
    (plan : planOr payload.planId inst'.planId = planOr payload.planId inst.planId)
    (parameters : inst'.parameters.merge payload.parameters =
      inst.parameters.merge payload.parameters)
    (same : ∀ now, ((updateQueued now payload inst').apply item').untimed =
      ((updateQueued "" payload inst).apply item).untimed)
    (again : Aws.Retried (.update id payload true) s w') :
    w'.Reaches (w.withRow id ((updateQueued "" payload inst).apply item)) .provision
      (.update id payload.serviceId (planOr payload.planId inst.planId)
        (inst.parameters.merge payload.parameters)) := by
  have answer (self : ExecutionName) (now : String) : s.answer self now (.update id payload true) =
      (⟨202, .operation "update"⟩, s.updateQueued self now id payload item' inst') := by
    rw [answer_update_present present, read]
  obtain ⟨self, now, rfl⟩ := again.of_accepted fun self now => by
    simp [answer, Response.accepted]
  rw [answer, Aws.updateQueued, plan, parameters]
  exact queued_reaches begun self (same now)

theorem completes_update (idle : w.Idle) {incomplete : Bool} :
    w.Completes settings (.update id payload incomplete) n effect := by
  by_cases taken : incomplete = true ∧ ∃ item ∈ w.instances id, ∃ inst,
      instanceFromItem id item = .ok inst
  · obtain ⟨rfl, item, present, inst, read⟩ := taken
    have cuts (self : ExecutionName) (now : String) :
        w.cut self now (.update id payload true) n effect = w ∨
        w.cut self now (.update id payload true) n effect =
          w.withRow id ((updateQueued now payload inst).apply item) ∨
        w.cut self now (.update id payload true) n effect =
          w.updateQueued self now id payload item inst := by
      rcases n with _ | _ | _ | n <;> cases effect <;> simp [cut_update_readable present read]
    refine completes_of_requeued .provision (repeatable_update settings id payload.serviceId
      (planOr payload.planId inst.planId) (inst.parameters.merge payload.parameters))
      (t := w.withRow id ((updateQueued "" payload inst).apply item)) ?_ fun self now => ?_
    · intro self now retried again
      obtain ⟨inst', read', plan, parameters, alike⟩ :=
        updateQueued_again now payload read
      rcases cuts self now with cut | cut | cut
      · rw [cut] at again
        exact retried_update (begun_self idle id _) present read rfl rfl (fun _ => rfl) again
      · rw [cut] at again
        refine retried_update (begun_withRow idle id _ _) (Function.update_self _ _ _) read' plan
          parameters (fun now' => ?_) again
        exact (alike now').untimed_again item
      · rw [cut] at again
        refine retried_update (begun_queued idle self id _ _) (Function.update_self _ _ _) read'
          plan parameters (fun now' => ?_) again
        exact (alike now').untimed_again item
    · rw [answer_update_present present, read]
      exact queued_reaches (begun_self idle id _) self rfl
  · exact completes_of_unchanged idle (fun _ _ => cut_update_refused taken)
      fun _ _ => answer_update_refused taken

end Update

/-! ## Deprovision -/

section Deprovision
variable {s : Aws} {service plan : String} {item : InstanceItem} {inst : Instance}

def Aws.Removable (w : Aws) (id service plan : String) (incomplete : Bool) : Prop :=
  incomplete = true ∧ ∃ item ∈ w.instances id, ∃ inst, instanceFromItem id item = .ok inst ∧
    inst.serviceId = service ∧ inst.planId = plan

theorem cut_deprovision_readable (present : w.instances id = some item)
    (read : instanceFromItem id item = .ok inst) :
    w.cut self now (.deprovision id inst.serviceId inst.planId true) n effect =
      match n, effect with
      | 0, _ | 1, false => w
      | 1, true | 2, false => w.withRow id ((deprovisionQueued now).apply item)
      | _, _ => w.deprovisionQueued self now id item := by
  match n with
  | 0 =>
      simp [Aws.cut, app, respond, deprovisionInstance, InstanceStore.get, CallTree.invoke, perform]
  | 1 =>
      cases effect <;> simp [Aws.cut, app, respond, deprovisionInstance, InstanceStore.get,
        CallTree.invoke, perform, present, read, InstanceStore.transition, Aws.withRow,
        Osb.deprovisionQueued]
  | 2 =>
      cases effect <;> simp [Aws.cut, app, respond, deprovisionInstance, InstanceStore.get,
        CallTree.invoke, perform, present, read, InstanceStore.transition, TaskQueue.send,
        Aws.withRow, Aws.deprovisionQueued, Osb.deprovisionQueued]
  | n + 3 =>
      simp [Aws.cut, app, respond, deprovisionInstance, InstanceStore.get, CallTree.invoke, perform,
        present, read, InstanceStore.transition, TaskQueue.send, Aws.deprovisionQueued,
        Osb.deprovisionQueued]

theorem cut_deprovision_refused {incomplete : Bool}
    (refused : ¬w.Removable id service plan incomplete) :
    w.cut self now (.deprovision id service plan incomplete) n effect = w := by
  cases incomplete with
  | false => simp [Aws.cut, app, respond, deprovisionInstance, osbError]
  | true =>
      cases n with
      | zero => simp [Aws.cut, app, respond, deprovisionInstance, InstanceStore.get,
          CallTree.invoke, perform]
      | succ n =>
          cases row : w.instances id with
          | none =>
              simp [Aws.cut, app, respond, deprovisionInstance, InstanceStore.get, CallTree.invoke,
                perform, row, osbError]
          | some item =>
              cases read : instanceFromItem id item with
              | ok inst =>
                  have differ : inst.serviceId ≠ service ∨ inst.planId ≠ plan := by
                    by_contra same
                    push Not at same
                    exact refused ⟨rfl, item, row, inst, read, same⟩
                  simp [Aws.cut, app, respond, deprovisionInstance, InstanceStore.get,
                    CallTree.invoke, perform, row, read, differ, osbError]
              | error e =>
                  obtain ⟨key, rfl⟩ := instanceFromItem_error read
                  simp [Aws.cut, app, respond, deprovisionInstance, InstanceStore.get,
                    CallTree.invoke, perform, row, read]

theorem answer_deprovision_refused {incomplete : Bool}
    (refused : ¬w.Removable id service plan incomplete) :
    (w.answer self now (.deprovision id service plan incomplete)).2 = w := by
  cases incomplete with
  | false => rw [answer_deprovision_sync]
  | true =>
      cases row : w.instances id with
      | none => rw [answer_deprovision_absent row]
      | some item =>
          rw [answer_deprovision_present row]
          cases read : instanceFromItem id item with
          | ok inst =>
              dsimp only
              split
              next same => exact absurd ⟨rfl, item, row, inst, read, same⟩ refused
              next => rfl
          | error e => rfl

theorem deprovisionQueued_alike (now now' : String) :
    (deprovisionQueued now).Alike (deprovisionQueued now') := rfl

theorem retried_deprovision (begun : s.Begun w id (.deprovision id)) {item' : InstanceItem}
    {inst' : Instance} (present : s.instances id = some item')
    (read : instanceFromItem id item' = .ok inst')
    (same : ((deprovisionQueued "").apply item').untimed =
      ((deprovisionQueued "").apply item).untimed)
    (again : Aws.Retried (.deprovision id inst'.serviceId inst'.planId true) s w') :
    w'.Reaches (w.withRow id ((deprovisionQueued "").apply item)) .provision
      (.deprovision id) := by
  have answer (self : ExecutionName) (now : String) :
      s.answer self now (.deprovision id inst'.serviceId inst'.planId true) =
        (⟨200, .operation "deprovision"⟩, s.deprovisionQueued self now id item') := by
    rw [answer_deprovision_present present, read]
    simp
  obtain ⟨self, now, rfl⟩ := again.of_accepted fun self now => by
    simp [answer, Response.accepted]
  rw [answer]
  exact queued_reaches begun self same

theorem completes_deprovision (idle : w.Idle) {incomplete : Bool} :
    w.Completes settings (.deprovision id service plan incomplete) n effect := by
  by_cases taken : w.Removable id service plan incomplete
  · obtain ⟨rfl, item, present, inst, read, rfl, rfl⟩ := taken
    have cuts (self : ExecutionName) (now : String) :
        w.cut self now (.deprovision id inst.serviceId inst.planId true) n effect = w ∨
        w.cut self now (.deprovision id inst.serviceId inst.planId true) n effect =
          w.withRow id ((deprovisionQueued now).apply item) ∨
        w.cut self now (.deprovision id inst.serviceId inst.planId true) n effect =
          w.deprovisionQueued self now id item := by
      rcases n with _ | _ | _ | n <;> cases effect <;>
        simp [cut_deprovision_readable present read]
    refine completes_of_requeued .provision (repeatable_deprovision settings id)
      (t := w.withRow id ((deprovisionQueued "").apply item)) ?_ fun self now => ?_
    · intro self now retried again
      have read' := instanceFromItem_apply read (deprovisionQueued now)
      have same := (deprovisionQueued_alike now "").untimed_again item
      rcases cuts self now with cut | cut | cut
      · rw [cut] at again
        exact retried_deprovision (begun_self idle id _) present read rfl again
      · rw [cut] at again
        exact retried_deprovision (begun_withRow idle id _ _) (Function.update_self _ _ _) read'
          same again
      · rw [cut] at again
        exact retried_deprovision (begun_queued idle self id _ _) (Function.update_self _ _ _)
          read' same again
    · rw [answer_deprovision_present present, read]
      simp only [and_self, if_true]
      exact queued_reaches (begun_self idle id _) self rfl
  · exact completes_of_unchanged idle (fun _ _ => cut_deprovision_refused taken)
      fun _ _ => answer_deprovision_refused taken

end Deprovision

end Regnant.Osb
