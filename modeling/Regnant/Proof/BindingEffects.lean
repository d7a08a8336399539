import Regnant.Proof.Effects

namespace Regnant.Osb
open Function (update)

variable {self : ExecutionName} {w : Aws} {id bid : String}

theorem bindingFromItem_error {item : BindingItem} {e : Exn}
    (read : bindingFromItem bid id item = .error e) : ∃ key, e = .keyError key := by
  obtain ⟨service, plan, state, credentials, parameters, created, updated⟩ := item
  cases service <;> cases plan <;> cases state <;> cases created <;> cases updated <;>
    simp only [bindingFromItem, require, bind, Except.bind, pure, Except.pure, Except.error.injEq,
      reduceCtorEq] at read
  all_goals exact ⟨_, read.symm⟩

theorem bindingFromItem_parameters {item : BindingItem} {binding : Binding}
    (read : bindingFromItem bid id item = .ok binding) :
    binding.parameters = item.parameters.getD ∅ := by
  obtain ⟨service, plan, state, credentials, parameters, created, updated⟩ := item
  cases service <;> cases plan <;> cases state <;> cases created <;> cases updated <;>
    simp only [bindingFromItem, require, bind, Except.bind, pure, Except.pure, Except.ok.injEq,
      reduceCtorEq] at read
  subst read
  rfl

theorem run_getBinding_none (absent : w.bindings (bid, id) = none) :
    (BindingStore.get bid id).run (perform self) w =
      (.error (.osb ⟨.bindingNotFound, s!"binding {bid} not found"⟩), w) := by
  simp [BindingStore.get, perform, absent, osbError]

theorem run_getBinding_some {item : BindingItem} (present : w.bindings (bid, id) = some item) :
    (BindingStore.get bid id).run (perform self) w = (bindingFromItem bid id item, w) := by
  simp [BindingStore.get, perform, present]

theorem run_getBindingOrNone_none (absent : w.bindings (bid, id) = none) :
    (BindingStore.getOrNone bid id).run (perform self) w = (.ok none, w) := by
  simp [BindingStore.getOrNone, run_getBinding_none absent]

theorem run_getBindingOrNone_some {item : BindingItem}
    (present : w.bindings (bid, id) = some item) :
    (BindingStore.getOrNone bid id).run (perform self) w =
      ((bindingFromItem bid id item).map some, w) := by
  simp only [BindingStore.getOrNone, CallTree.run_bind, CallTree.run_attempt,
    run_getBinding_some present]
  cases read : bindingFromItem bid id item with
  | ok binding => rfl
  | error e =>
      obtain ⟨key, rfl⟩ := bindingFromItem_error read
      rfl

def Aws.withBinding (w : Aws) (now id bid : String) (payload : BindRequest) : Aws :=
  { w with
    bindings := update w.bindings (bid, id)
      (some (BindingStore.newItem now payload.serviceId payload.planId payload.parameters)) }

def Aws.bindSent (w : Aws) (self : ExecutionName) (id bid : String) (payload : BindRequest) : Aws :=
  { w with bindingTasks := w.bindingTasks ++ [⟨self, .object (.bind id bid payload)⟩] }

def Aws.unbindSent (w : Aws) (self : ExecutionName) (id bid : String) : Aws :=
  { w with bindingTasks := w.bindingTasks ++ [⟨self, .object (.unbind id bid)⟩] }

def Aws.withoutBinding (w : Aws) (id bid : String) : Aws :=
  { w with bindings := update w.bindings (bid, id) none }

def Aws.Bindable (w : Aws) (id : String) : Prop :=
  ∃ item ∈ w.instances id, ∃ inst, instanceFromItem id item = .ok inst ∧ inst.state.bindable

section Bind
variable {now : String} {payload : BindRequest} {item : InstanceItem} {inst : Instance}

theorem answer_bind_absent (absent : w.instances id = none) :
    w.answer self now (.bind id bid payload) =
      (⟨404, .error "InstanceNotFound" s!"instance {id} not found"⟩, w) := by
  simp [Aws.answer, app, respond, bindInstance, run_get_none absent, OsbErrorKind.statusCode,
    OsbErrorKind.errorCode]

theorem answer_bind_unreadable {e : Exn} (present : w.instances id = some item)
    (unreadable : instanceFromItem id item = .error e) :
    w.answer self now (.bind id bid payload) = (⟨500, .serverError⟩, w) := by
  obtain ⟨key, rfl⟩ := instanceFromItem_error unreadable
  simp [Aws.answer, app, respond, bindInstance, run_get_some present, unreadable]

theorem answer_bind_unbindable (present : w.instances id = some item)
    (read : instanceFromItem id item = .ok inst) (unbindable : ¬inst.state.bindable) :
    w.answer self now (.bind id bid payload) =
      (⟨409, .error "Conflict" s!"instance {id} is not in a bindable state"⟩, w) := by
  simp [Aws.answer, app, respond, bindInstance, run_get_some present, read, unbindable, osbError,
    OsbErrorKind.statusCode, OsbErrorKind.errorCode]

theorem run_createBinding_absent (self : ExecutionName) (now service plan : String)
    (parameters : Dict) (absent : w.bindings (bid, id) = none) :
    ∃ binding, (BindingStore.create now bid id service plan parameters).run (perform self) w =
      (.ok binding, ({ w with
        bindings := update w.bindings (bid, id)
          (some (BindingStore.newItem now service plan parameters)) } : Aws)) := by
  obtain ⟨binding, read⟩ : ∃ binding, bindingFromItem bid id
      (BindingStore.newItem now service plan parameters) = .ok binding := ⟨_, rfl⟩
  refine ⟨binding, ?_⟩
  simp only [BindingStore.create, CallTree.run_bind, CallTree.run_attempt, CallTree.run_invoke,
    perform, absent, CallTree.run_ofExcept, read]

theorem answer_bind_created (present : w.instances id = some item)
    (read : instanceFromItem id item = .ok inst) (bindable : inst.state.bindable)
    (absent : w.bindings (bid, id) = none) :
    w.answer self now (.bind id bid payload) =
      (⟨201, .bind {
          uri := s!"https://{id}.internal.regnant.local"
          username := s!"binding-{bid}"
          password := "pending-rotation" }⟩,
        (w.withBinding now id bid payload).bindSent self id bid payload) := by
  obtain ⟨binding, created⟩ := run_createBinding_absent self now payload.serviceId payload.planId
    payload.parameters absent
  simp [Aws.answer, app, respond, bindInstance, run_get_some present, read, bindable,
    run_getBindingOrNone_none absent, created, TaskQueue.send, perform, Aws.withBinding,
    Aws.bindSent]

theorem answer_bind_existing {existing : BindingItem} (present : w.instances id = some item)
    (read : instanceFromItem id item = .ok inst) (bindable : inst.state.bindable)
    (bound : w.bindings (bid, id) = some existing) :
    w.answer self now (.bind id bid payload) =
      (match bindingFromItem bid id existing with
        | .ok binding =>
            if binding.serviceId = payload.serviceId ∧ binding.planId = payload.planId then
              ⟨201, .bind (.ofStored binding.credentials)⟩
            else ⟨422, .error "ConcurrencyError" s!"binding {bid} already exists"⟩
        | .error _ => ⟨500, .serverError⟩, w) := by
  cases found : bindingFromItem bid id existing with
  | ok binding =>
      by_cases same : binding.serviceId = payload.serviceId ∧ binding.planId = payload.planId
      · simp [Aws.answer, app, respond, bindInstance, run_get_some present, read, bindable,
          run_getBindingOrNone_some bound, found, Except.map, Option.filter, same]
      · simp [Aws.answer, app, respond, bindInstance, run_get_some present, read, bindable,
          run_getBindingOrNone_some bound, found, Except.map, Option.filter, same,
          BindingStore.create,
          perform, bound, osbError, OsbErrorKind.statusCode, OsbErrorKind.errorCode]
  | error e =>
      obtain ⟨key, rfl⟩ := bindingFromItem_error found
      simp [Aws.answer, app, respond, bindInstance, run_get_some present, read, bindable,
        run_getBindingOrNone_some bound, found, Except.map]

end Bind

section Unbind
variable {now service plan : String}

theorem answer_unbind_absent (absent : w.bindings (bid, id) = none) :
    w.answer self now (.unbind id bid service plan) =
      (⟨404, .error "BindingNotFound" s!"binding {bid} not found"⟩, w) := by
  simp [Aws.answer, app, respond, unbindInstance, run_getBinding_none absent,
    OsbErrorKind.statusCode, OsbErrorKind.errorCode]

theorem answer_unbind_existing {existing : BindingItem}
    (bound : w.bindings (bid, id) = some existing) :
    w.answer self now (.unbind id bid service plan) =
      match bindingFromItem bid id existing with
      | .ok binding =>
          if binding.serviceId = service ∧ binding.planId = plan then
            (⟨200, .operation "unbind"⟩, (w.unbindSent self id bid).withoutBinding id bid)
          else
            (⟨400, .error "BadRequest"
              "service_id/plan_id mismatch with the existing binding"⟩, w)
      | .error _ => (⟨500, .serverError⟩, w) := by
  cases found : bindingFromItem bid id existing with
  | ok binding =>
      by_cases same : binding.serviceId = service ∧ binding.planId = plan
      · simp [Aws.answer, app, respond, unbindInstance, run_getBinding_some bound, found, same,
          TaskQueue.send, BindingStore.delete, perform, Aws.unbindSent, Aws.withoutBinding]
      · have differ : binding.serviceId ≠ service ∨ binding.planId ≠ plan := by tauto
        simp [Aws.answer, app, respond, unbindInstance, run_getBinding_some bound, found, same,
          differ, osbError, OsbErrorKind.statusCode, OsbErrorKind.errorCode]
  | error e =>
      obtain ⟨key, rfl⟩ := bindingFromItem_error found
      simp [Aws.answer, app, respond, unbindInstance, run_getBinding_some bound, found]

end Unbind

variable {settings : Settings} {queue : QueueName} {draws : Draws} {receipt : ExecutionName}

def bound (draws : Draws) (id bid : String) : BindingUpdate where
  state := .bound
  credentials :=
    { uri := s!"https://{id}.internal.regnant.local"
      username := s!"binding-{bid}"
      password := draws.token }
  updatedAt := draws.now

def Aws.completed (w : Aws) (id bid : String) (u : BindingUpdate) : Aws :=
  { w with
    bindings := update w.bindings (bid, id) (some (u.apply ((w.bindings (bid, id)).getD {}))) }

theorem handle_bind {payload : BindRequest} :
    w.handle settings queue draws ⟨receipt, .object (.bind id bid payload)⟩ =
      (w.completed id bid (Osb.bound draws id bid)).acknowledged queue receipt := by
  simp [Aws.handle, Worker.handle, Worker.dispatch, Payload.bind, Worker.bind, Worker.subscript,
    require, BindingStore.complete, TaskQueue.delete, perform, Aws.completed, Aws.acknowledged,
    Osb.bound]

theorem handle_unbind :
    w.handle settings queue draws ⟨receipt, .object (.unbind id bid)⟩ =
      w.acknowledged queue receipt := by
  simp [Aws.handle, Worker.handle, Worker.dispatch, Payload.unbind, Worker.unbind, Worker.subscript,
    require, TaskQueue.delete, perform, Aws.acknowledged]

end Regnant.Osb
