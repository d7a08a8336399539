import Regnant.Osb.Broker

namespace Regnant.Osb
open Function (update)

theorem instanceFromItem_ok {id : String} {item : InstanceItem} {inst : Instance}
    (read : instanceFromItem id item = .ok inst) :
    item.serviceId = some inst.serviceId ∧ item.planId = some inst.planId ∧
      item.state = some inst.state ∧ inst.parameters = item.parameters.getD ∅ ∧
      inst.lastOperationDescription = item.lastOperationDescription := by
  obtain ⟨service, plan, state, parameters, context, created, updated⟩ := item
  cases service <;> cases plan <;> cases state <;> cases created <;> cases updated <;>
    simp only [instanceFromItem, require, bind, Except.bind, pure, Except.pure, Except.ok.injEq,
      reduceCtorEq] at read
  subst read
  exact ⟨rfl, rfl, rfl, rfl, rfl⟩

theorem instanceFromItem_apply {id : String} {item : InstanceItem} {inst : Instance}
    (read : instanceFromItem id item = .ok inst) (u : InstanceUpdate) :
    instanceFromItem id (u.apply item) = .ok { inst with
      state := u.state
      updatedAt := u.updatedAt
      lastOperationDescription := u.description.or inst.lastOperationDescription
      lastOperation := u.operation.or inst.lastOperation
      artifactKey := u.artifactKey.or inst.artifactKey
      planId := u.planId.getD inst.planId
      parameters := u.parameters.getD inst.parameters
      dashboardUrl := u.dashboardUrl.or inst.dashboardUrl } := by
  obtain ⟨service, plan, state, parameters, context, created, updated⟩ := item
  cases service <;> cases plan <;> cases state <;> cases created <;> cases updated <;>
    simp only [instanceFromItem, require, bind, Except.bind, pure, Except.pure, Except.ok.injEq,
      reduceCtorEq] at read
  subst read
  obtain ⟨_, _, _, _, _, plan', parameters', _⟩ := u
  cases plan' <;> cases parameters' <;> cases parameters <;> rfl

theorem instanceFromItem_error {id : String} {item : InstanceItem} {e : Exn}
    (read : instanceFromItem id item = .error e) : ∃ key, e = .keyError key := by
  obtain ⟨service, plan, state, parameters, context, created, updated⟩ := item
  cases service <;> cases plan <;> cases state <;> cases created <;> cases updated <;>
    simp only [instanceFromItem, require, bind, Except.bind, pure, Except.pure, Except.error.injEq,
      reduceCtorEq] at read
  all_goals exact ⟨_, read.symm⟩

theorem instanceFromItem_isOk {id : String} {item : InstanceItem} :
    (∃ inst, instanceFromItem id item = .ok inst) ↔ item.serviceId.isSome ∧ item.planId.isSome ∧
      item.state.isSome ∧ item.createdAt.isSome ∧ item.updatedAt.isSome := by
  obtain ⟨service, plan, state, parameters, context, created, updated⟩ := item
  cases service <;> cases plan <;> cases state <;> cases created <;> cases updated <;>
    simp [instanceFromItem, require, bind, Except.bind, pure, Except.pure]

structure InstanceItem.Complete (item : InstanceItem) : Prop where
  serviceId : item.serviceId.isSome
  planId : item.planId.isSome
  state : item.state.isSome
  parameters : item.parameters.isSome
  context : item.context.isSome
  createdAt : item.createdAt.isSome
  updatedAt : item.updatedAt.isSome

theorem InstanceItem.Complete.read {item : InstanceItem} (complete : item.Complete) (id : String) :
    ∃ inst, instanceFromItem id item = .ok inst :=
  instanceFromItem_isOk.mpr ⟨complete.serviceId, complete.planId, complete.state,
    complete.createdAt, complete.updatedAt⟩

theorem InstanceItem.Complete.apply {item : InstanceItem} (complete : item.Complete)
    (u : InstanceUpdate) : (u.apply item).Complete := by
  obtain ⟨service, plan, state, parameters, context, created, updated⟩ := complete
  exact ⟨service, by simp [InstanceUpdate.apply, plan], rfl,
    by simp [InstanceUpdate.apply, parameters], context, created, rfl⟩

structure InstanceItem.Shaped (settings : Settings) (id : String) (item : InstanceItem) : Prop where
  key : item.artifactKey = none ∨ item.artifactKey = some (settings.artifactKey id)
  whole : item.serviceId.isSome → item.Complete

theorem InstanceItem.Shaped.empty (settings : Settings) (id : String) :
    ({} : InstanceItem).Shaped settings id :=
  ⟨.inl rfl, fun service => by cases service⟩

theorem InstanceItem.Shaped.apply {settings : Settings} {id : String} {item : InstanceItem}
    (shaped : item.Shaped settings id) (u : InstanceUpdate)
    (key : u.artifactKey = none ∨ u.artifactKey = some (settings.artifactKey id)) :
    (u.apply item).Shaped settings id := by
  refine ⟨?_, fun service => (shaped.whole service).apply u⟩
  rcases key with key | key
  · simpa [InstanceUpdate.apply, key] using shaped.key
  · simp [InstanceUpdate.apply, key]

theorem InstanceItem.Complete.newItem (now service plan : String) (parameters context : Dict) :
    (InstanceStore.newItem now service plan parameters context).Complete :=
  ⟨rfl, rfl, rfl, rfl, rfl, rfl, rfl⟩

variable {self : ExecutionName} {w : Aws}

theorem run_get_none {id : String} (absent : w.instances id = none) :
    (InstanceStore.get id).run (perform self) w =
      (.error (.osb ⟨.instanceNotFound, s!"instance {id} not found"⟩), w) := by
  simp [InstanceStore.get, perform, absent, osbError]

theorem run_get_some {id : String} {item : InstanceItem} (present : w.instances id = some item) :
    (InstanceStore.get id).run (perform self) w = (instanceFromItem id item, w) := by
  simp [InstanceStore.get, perform, present]

theorem run_getOrNone_none {id : String} (absent : w.instances id = none) :
    (InstanceStore.getOrNone id).run (perform self) w = (.ok none, w) := by
  simp [InstanceStore.getOrNone, run_get_none absent]

theorem run_getOrNone_some {id : String} {item : InstanceItem}
    (present : w.instances id = some item) :
    (InstanceStore.getOrNone id).run (perform self) w =
      ((instanceFromItem id item).map some, w) := by
  simp only [InstanceStore.getOrNone, CallTree.run_bind, CallTree.run_attempt,
    run_get_some present]
  cases read : instanceFromItem id item with
  | ok inst => rfl
  | error e =>
      obtain ⟨key, rfl⟩ := instanceFromItem_error read
      rfl

def Aws.created (w : Aws) (self : ExecutionName) (now id : String) (payload : ProvisionRequest) :
    Aws :=
  { w with
    instances := update w.instances id
      (some (InstanceStore.newItem now payload.serviceId payload.planId payload.parameters
        payload.context))
    provisionTasks := w.provisionTasks ++ [⟨self, .object (.provision id payload)⟩] }

def updateQueued (now : String) (payload : UpdateRequest) (inst : Instance) : InstanceUpdate where
  state := .updating
  updatedAt := now
  description := "update queued"
  operation := "update"
  planId := planOr payload.planId inst.planId
  parameters := inst.parameters.merge payload.parameters

def Aws.updateQueued (w : Aws) (self : ExecutionName) (now id : String) (payload : UpdateRequest)
    (item : InstanceItem) (inst : Instance) : Aws :=
  { w with
    instances := update w.instances id (some ((Osb.updateQueued now payload inst).apply item))
    provisionTasks := w.provisionTasks ++ [⟨self, .object (.update id payload.serviceId
      (planOr payload.planId inst.planId) (inst.parameters.merge payload.parameters))⟩] }

def deprovisionQueued (now : String) : InstanceUpdate where
  state := .deprovisioning
  updatedAt := now
  operation := "deprovision"
  description := "deprovision queued"

def Aws.deprovisionQueued (w : Aws) (self : ExecutionName) (now id : String)
    (item : InstanceItem) : Aws :=
  { w with
    instances := update w.instances id (some ((Osb.deprovisionQueued now).apply item))
    provisionTasks := w.provisionTasks ++ [⟨self, .object (.deprovision id)⟩] }

/-! ## The instance routes -/

theorem run_create_absent (self : ExecutionName) {w : Aws} {id : String}
    (now service plan : String) (parameters context : Dict) (absent : w.instances id = none) :
    ∃ inst, (InstanceStore.create now id service plan parameters context).run (perform self) w =
      (.ok inst, ({ w with
        instances := update w.instances id
          (some (InstanceStore.newItem now service plan parameters context)) } : Aws)) := by
  obtain ⟨inst, read⟩ : ∃ inst, instanceFromItem id
      (InstanceStore.newItem now service plan parameters context) = .ok inst := ⟨_, rfl⟩
  refine ⟨inst, ?_⟩
  simp only [InstanceStore.create, CallTree.run_bind, CallTree.run_attempt, CallTree.run_invoke,
    perform, absent, CallTree.run_ofExcept, read]

theorem answer_provision_absent {now id : String} {payload : ProvisionRequest}
    (valid : validInstanceId id) (absent : w.instances id = none) :
    w.answer self now (.provision id payload true) =
      (⟨202, .operation "provision"⟩, w.created self now id payload) := by
  obtain ⟨inst, created⟩ := run_create_absent self now payload.serviceId payload.planId
    payload.parameters payload.context absent
  simp [Aws.answer, app, valid, respond, provisionInstance, run_getOrNone_none absent, created,
    TaskQueue.send, perform, Aws.created]

theorem answer_provision_present {now id : String} {payload : ProvisionRequest}
    {item : InstanceItem} (valid : validInstanceId id) (present : w.instances id = some item) :
    w.answer self now (.provision id payload true) =
      (match instanceFromItem id item with
        | .ok inst =>
            if inst.serviceId = payload.serviceId ∧ inst.planId = payload.planId then
              ⟨202, .operation "provision"⟩
            else
              ⟨409, .error "Conflict" s!"instance {id} already exists with different parameters"⟩
        | .error _ => ⟨500, .serverError⟩, w) := by
  cases read : instanceFromItem id item with
  | ok inst =>
      by_cases same : inst.serviceId = payload.serviceId ∧ inst.planId = payload.planId
      all_goals simp [Aws.answer, app, valid, respond, provisionInstance,
        run_getOrNone_some present, read, same, Except.map, osbError, OsbErrorKind.statusCode,
        OsbErrorKind.errorCode]
  | error e =>
      obtain ⟨key, rfl⟩ := instanceFromItem_error read
      simp [Aws.answer, app, valid, respond, provisionInstance, run_getOrNone_some present, read,
        Except.map]

theorem answer_provision_invalid {now id : String} {payload : ProvisionRequest} {incomplete : Bool}
    (invalid : ¬validInstanceId id) :
    w.answer self now (.provision id payload incomplete) = (⟨422, .validationError⟩, w) := by
  simp [Aws.answer, app, invalid]

theorem answer_provision_sync {now id : String} {payload : ProvisionRequest}
    (valid : validInstanceId id) :
    w.answer self now (.provision id payload false) =
      (⟨422, .error "AsyncRequired"
        "provisioning is asynchronous; pass accepts_incomplete=true"⟩, w) := by
  simp [Aws.answer, app, valid, respond, provisionInstance, osbError, CallTree.attempt,
    OsbErrorKind.statusCode, OsbErrorKind.errorCode]

theorem answer_update_absent {now id : String} {payload : UpdateRequest}
    (absent : w.instances id = none) :
    w.answer self now (.update id payload true) =
      (⟨404, .error "InstanceNotFound" s!"instance {id} not found"⟩, w) := by
  simp [Aws.answer, app, respond, updateInstance, run_get_none absent, OsbErrorKind.statusCode,
    OsbErrorKind.errorCode]

theorem answer_update_present {now id : String} {payload : UpdateRequest} {item : InstanceItem}
    (present : w.instances id = some item) :
    w.answer self now (.update id payload true) =
      match instanceFromItem id item with
      | .ok inst => (⟨202, .operation "update"⟩, w.updateQueued self now id payload item inst)
      | .error _ => (⟨500, .serverError⟩, w) := by
  cases read : instanceFromItem id item with
  | ok inst =>
      simp [Aws.answer, app, respond, updateInstance, run_get_some present, read,
        InstanceStore.transition, TaskQueue.send, perform, present, Aws.updateQueued,
        Osb.updateQueued]
  | error e =>
      obtain ⟨key, rfl⟩ := instanceFromItem_error read
      simp [Aws.answer, app, respond, updateInstance, run_get_some present, read]

theorem answer_update_sync {now id : String} {payload : UpdateRequest} :
    w.answer self now (.update id payload false) =
      (⟨422, .error "AsyncRequired"
        "updates are asynchronous; pass accepts_incomplete=true"⟩, w) := by
  simp [Aws.answer, app, respond, updateInstance, osbError, CallTree.attempt,
    OsbErrorKind.statusCode, OsbErrorKind.errorCode]

theorem answer_deprovision_absent {now id service plan : String}
    (absent : w.instances id = none) :
    w.answer self now (.deprovision id service plan true) =
      (⟨404, .error "InstanceNotFound" s!"instance {id} not found"⟩, w) := by
  simp [Aws.answer, app, respond, deprovisionInstance, run_get_none absent,
    OsbErrorKind.statusCode, OsbErrorKind.errorCode]

theorem answer_deprovision_present {now id service plan : String} {item : InstanceItem}
    (present : w.instances id = some item) :
    w.answer self now (.deprovision id service plan true) =
      match instanceFromItem id item with
      | .ok inst =>
          if inst.serviceId = service ∧ inst.planId = plan then
            (⟨200, .operation "deprovision"⟩, w.deprovisionQueued self now id item)
          else
            (⟨400, .error "BadRequest"
              "service_id/plan_id mismatch with the existing instance"⟩, w)
      | .error _ => (⟨500, .serverError⟩, w) := by
  cases read : instanceFromItem id item with
  | ok inst =>
      by_cases same : inst.serviceId = service ∧ inst.planId = plan
      · simp [Aws.answer, app, respond, deprovisionInstance, run_get_some present, read, same,
          InstanceStore.transition, TaskQueue.send, perform, present, Aws.deprovisionQueued,
          Osb.deprovisionQueued]
      · have differ : inst.serviceId ≠ service ∨ inst.planId ≠ plan := by tauto
        simp [Aws.answer, app, respond, deprovisionInstance, run_get_some present, read, same,
          differ, osbError, OsbErrorKind.statusCode, OsbErrorKind.errorCode]
  | error e =>
      obtain ⟨key, rfl⟩ := instanceFromItem_error read
      simp [Aws.answer, app, respond, deprovisionInstance, run_get_some present, read]

theorem answer_deprovision_sync {now id service plan : String} :
    w.answer self now (.deprovision id service plan false) =
      (⟨422, .error "AsyncRequired"
        "deprovisioning is asynchronous; pass accepts_incomplete=true"⟩, w) := by
  simp [Aws.answer, app, respond, deprovisionInstance, osbError, CallTree.attempt,
    OsbErrorKind.statusCode, OsbErrorKind.errorCode]

def provisioned (settings : Settings) (now id : String) : InstanceUpdate where
  state := .available
  updatedAt := now
  description := "provisioned"
  operation := "provision"
  artifactKey := settings.artifactKey id
  dashboardUrl := Worker.dashboardUrl id

def updated (settings : Settings) (now id plan : String) (parameters : Dict) : InstanceUpdate where
  state := .available
  updatedAt := now
  description := "updated"
  operation := "update"
  artifactKey := settings.artifactKey id
  planId := plan
  parameters := parameters

def Aws.acknowledged (w : Aws) (queue : QueueName) (receipt : ExecutionName) : Aws :=
  { w with deleted := (queue, receipt) :: w.deleted }

def Aws.published (w : Aws) (settings : Settings) (id : String) (document : Value)
    (u : InstanceUpdate) : Aws :=
  { w with
    instances := update w.instances id (some (u.apply ((w.instances id).getD {})))
    bucket := update w.bucket (settings.artifactKey id) (some document) }

def Aws.removed (w : Aws) (settings : Settings) (id : String) : Aws :=
  { w with
    instances := update w.instances id none
    bucket := update w.bucket (settings.artifactKey id) none }

/-! ## The instance handlers of the worker -/

variable {settings : Settings} {queue : QueueName} {draws : Draws} {receipt : ExecutionName}

theorem handle_provision {id : String} {payload : ProvisionRequest} {document : Value}
    (rendered : renderResources id payload.serviceId payload.planId payload.parameters =
      .ok document) :
    w.handle settings queue draws ⟨receipt, .object (.provision id payload)⟩ =
      (w.published settings id document (provisioned settings draws.now id)).acknowledged queue
        receipt := by
  simp [Aws.handle, Worker.handle, Worker.dispatch, Payload.provision, Worker.provision,
    Worker.subscript, require, rendered, ArtifactStore.write, InstanceStore.transition,
    TaskQueue.delete, perform, Aws.published, Aws.acknowledged, provisioned]

theorem handle_provision_fails {id : String} {payload : ProvisionRequest}
    (fails : ¬Renders id payload.serviceId payload.planId payload.parameters) :
    w.handle settings queue draws ⟨receipt, .object (.provision id payload)⟩ = w := by
  cases rendered : renderResources id payload.serviceId payload.planId payload.parameters with
  | ok document => exact absurd (renders_iff.mpr ⟨document, rendered⟩) fails
  | error e =>
      simp [Aws.handle, Worker.handle, Worker.dispatch, Payload.provision, Worker.provision,
        Worker.subscript, require, rendered]

theorem handle_update_absent {id service plan : String} {parameters : Dict}
    (absent : w.instances id = none) :
    w.handle settings queue draws ⟨receipt, .object (.update id service plan parameters)⟩ =
      w.acknowledged queue receipt := by
  simp [Aws.handle, Worker.handle, Worker.dispatch, Payload.update, Worker.update,
    Worker.subscript, require, run_get_none absent, TaskQueue.delete, perform, Aws.acknowledged]

theorem handle_update_unreadable {id service plan : String} {parameters : Dict}
    {item : InstanceItem} {e : Exn} (present : w.instances id = some item)
    (unreadable : instanceFromItem id item = .error e) :
    w.handle settings queue draws ⟨receipt, .object (.update id service plan parameters)⟩ = w := by
  obtain ⟨key, rfl⟩ := instanceFromItem_error unreadable
  simp [Aws.handle, Worker.handle, Worker.dispatch, Payload.update, Worker.update,
    Worker.subscript, require, run_get_some present, unreadable]

theorem handle_update {id service plan : String} {parameters : Dict} {item : InstanceItem}
    {inst : Instance} {document : Value} (present : w.instances id = some item)
    (read : instanceFromItem id item = .ok inst)
    (rendered : renderResources id service plan parameters = .ok document) :
    w.handle settings queue draws ⟨receipt, .object (.update id service plan parameters)⟩ =
      (w.published settings id document
        (updated settings draws.now id plan parameters)).acknowledged queue receipt := by
  simp [Aws.handle, Worker.handle, Worker.dispatch, Payload.update, Worker.update,
    Worker.subscript, require, run_get_some present, read, rendered, ArtifactStore.write,
    InstanceStore.transition, TaskQueue.delete, perform, present, Aws.published,
    Aws.acknowledged, updated]

theorem handle_update_fails {id service plan : String} {parameters : Dict} {item : InstanceItem}
    (present : w.instances id = some item) (fails : ¬Renders id service plan parameters) :
    w.handle settings queue draws ⟨receipt, .object (.update id service plan parameters)⟩ = w := by
  cases rendered : renderResources id service plan parameters with
  | ok document => exact absurd (renders_iff.mpr ⟨document, rendered⟩) fails
  | error e =>
      cases read : instanceFromItem id item with
      | error e => exact handle_update_unreadable present read
      | ok inst =>
          simp [Aws.handle, Worker.handle, Worker.dispatch, Payload.update, Worker.update,
            Worker.subscript, require, run_get_some present, read, rendered]

theorem handle_deprovision {id : String} :
    w.handle settings queue draws ⟨receipt, .object (.deprovision id)⟩ =
      (w.removed settings id).acknowledged queue receipt := by
  simp [Aws.handle, Worker.handle, Worker.dispatch, Payload.deprovision, Worker.deprovision,
    Worker.subscript, require, ArtifactStore.delete, InstanceStore.delete, TaskQueue.delete,
    perform, Aws.removed, Aws.acknowledged]

end Regnant.Osb
