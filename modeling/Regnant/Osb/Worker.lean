import Regnant.Osb.Routes

namespace Regnant.Osb

structure Draws where
  now : String
  token : String

namespace Worker

def dashboardUrl (instanceId : String) : String :=
  s!"https://api.regnant.local/dashboard/{instanceId}"

def subscript {α : Type} (key : String) (member : Option α) : Handler α :=
  CallTree.ofExcept (require key member)

def provision (settings : Settings) (now : String) (payload : Payload) : Handler Unit := do
  let instanceId ← subscript "instance_id" payload.instanceId
  let serviceId ← subscript "service_id" payload.serviceId
  let planId ← subscript "plan_id" payload.planId
  let document ← CallTree.ofExcept
    (renderResources instanceId serviceId planId (payload.parameters.getD ∅))
  let key ← ArtifactStore.write settings instanceId document
  InstanceStore.transition instanceId
    { state := .available
      updatedAt := now
      description := "provisioned"
      operation := "provision"
      artifactKey := key
      dashboardUrl := dashboardUrl instanceId }

def update (settings : Settings) (now : String) (payload : Payload) : Handler Unit := do
  let instanceId ← subscript "instance_id" payload.instanceId
  match ← (InstanceStore.get instanceId).attempt with
  -- an instance that is gone needs no update
  | .error (.osb ⟨.instanceNotFound, _⟩) => return ()
  | .error e => .raise e
  | .ok inst =>
      let document ← CallTree.ofExcept
        (renderResources instanceId (payload.serviceId.getD inst.serviceId)
          (payload.planId.getD inst.planId) (payload.parameters.getD inst.parameters))
      let key ← ArtifactStore.write settings instanceId document
      InstanceStore.transition instanceId
        { state := .available
          updatedAt := now
          description := "updated"
          operation := "update"
          artifactKey := key
          planId := payload.planId
          parameters := payload.parameters }

def deprovision (settings : Settings) (payload : Payload) : Handler Unit := do
  let instanceId ← subscript "instance_id" payload.instanceId
  ArtifactStore.delete settings instanceId
  InstanceStore.delete instanceId

def bind (draws : Draws) (payload : Payload) : Handler Unit := do
  let instanceId ← subscript "instance_id" payload.instanceId
  let bindingId ← subscript "binding_id" payload.bindingId
  BindingStore.complete draws.now bindingId instanceId
    { uri := s!"https://{instanceId}.internal.regnant.local"
      username := s!"binding-{bindingId}"
      password := draws.token }

def unbind (payload : Payload) : Handler Unit := do
  let _ ← subscript "binding_id" payload.bindingId
  return ()

def dispatch (settings : Settings) (draws : Draws) (payload : Payload) : Handler Unit :=
  match payload.op with
  | some .provision => provision settings draws.now payload
  | some .update => update settings draws.now payload
  | some .deprovision => deprovision settings payload
  | some .bind => bind draws payload
  | some .unbind => unbind payload
  | _ => return ()  -- an unknown op is acknowledged

/-- `_handle`. A body that is no object has no `get`, and that is not inside the `try`. A message
is taken off the queue when its body is malformed or nothing was raised. -/
def handle (settings : Settings) (queue : QueueName) (draws : Draws) (message : Message) :
    Handler Unit :=
  match message.body with
  | .malformed _ => TaskQueue.delete queue message.receiptHandle
  | .scalar _ => .raise .attributeError
  | .object payload => do
      match ← (dispatch settings draws payload).attempt with
      | .error _ => return ()
      | .ok () => TaskQueue.delete queue message.receiptHandle

end Worker

end Regnant.Osb
