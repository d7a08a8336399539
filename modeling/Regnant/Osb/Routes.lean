import Regnant.Osb.Storage

namespace Regnant.Osb

structure ProvisionRequest where
  serviceId : String
  planId : String
  context : Dict := ∅
  parameters : Dict := ∅
  deriving DecidableEq

structure UpdateRequest where
  serviceId : String
  planId : Option String := none
  parameters : Dict := ∅
  deriving DecidableEq

structure BindRequest where
  serviceId : String
  planId : String
  parameters : Dict := ∅
  deriving DecidableEq

structure BindCredentials where
  uri : String
  username : String
  password : String
  caCertificatePem : Option String := none
  deriving DecidableEq

inductive OperationState where
  | inProgress
  | succeeded
  | failed
  deriving DecidableEq

inductive Body where
  | operation (operation : String)
  | fetchInstance (serviceId planId : String) (dashboardUrl : Option String) (parameters : Dict)
  | lastOperation (state : OperationState) (description : Option String)
  | bind (credentials : BindCredentials)
  | fetchBinding (credentials : Option BindCredentials) (parameters : Dict)
  | error (code description : String)
  | validationError
  | serverError
  deriving DecidableEq

structure Response where
  status : Nat
  body : Body
  deriving DecidableEq

def Response.accepted (r : Response) : Prop :=
  200 ≤ r.status ∧ r.status < 300
  deriving Decidable

inductive Request where
  | provision (instanceId : String) (payload : ProvisionRequest) (acceptsIncomplete : Bool)
  | update (instanceId : String) (payload : UpdateRequest) (acceptsIncomplete : Bool)
  | deprovision (instanceId serviceId planId : String) (acceptsIncomplete : Bool)
  | fetchInstance (instanceId : String)
  | instanceLastOperation (instanceId : String)
  | bind (instanceId bindingId : String) (payload : BindRequest)
  | unbind (instanceId bindingId serviceId planId : String)
  | fetchBinding (instanceId bindingId : String)
  | bindingLastOperation (instanceId bindingId : String)
  deriving DecidableEq

def Request.instanceId : Request → String
  | .provision id _ _ => id
  | .update id _ _ => id
  | .deprovision id _ _ _ => id
  | .fetchInstance id => id
  | .instanceLastOperation id => id
  | .bind id _ _ => id
  | .unbind id _ _ _ => id
  | .fetchBinding id _ => id
  | .bindingLastOperation id _ => id

def Payload.provision (instanceId : String) (payload : ProvisionRequest) : Payload where
  op := some .provision
  instanceId := instanceId
  serviceId := payload.serviceId
  planId := payload.planId
  parameters := payload.parameters
  context := payload.context

def Payload.update (instanceId serviceId planId : String) (parameters : Dict) : Payload where
  op := some .update
  instanceId := instanceId
  serviceId := serviceId
  planId := planId
  parameters := parameters

def Payload.deprovision (instanceId : String) : Payload where
  op := some .deprovision
  instanceId := instanceId

def Payload.bind (instanceId bindingId : String) (payload : BindRequest) : Payload where
  op := some .bind
  instanceId := instanceId
  bindingId := bindingId
  serviceId := payload.serviceId
  planId := payload.planId
  parameters := payload.parameters

def Payload.unbind (instanceId bindingId : String) : Payload where
  op := some .unbind
  instanceId := instanceId
  bindingId := bindingId

/-! ## Instances -/

def provisionInstance (now instanceId : String) (payload : ProvisionRequest)
    (acceptsIncomplete : Bool) : Handler Body :=
  if !acceptsIncomplete then
    osbError .asyncRequired "provisioning is asynchronous; pass accepts_incomplete=true"
  else do
    match ← InstanceStore.getOrNone instanceId with
    | some existing =>
        if existing.serviceId = payload.serviceId ∧ existing.planId = payload.planId then
          return .operation "provision"
        else
          osbError .conflict s!"instance {instanceId} already exists with different parameters"
    | none =>
        -- whoever loses a race ends here, by the condition of the put
        let _ ← InstanceStore.create now instanceId payload.serviceId payload.planId
          payload.parameters payload.context
        TaskQueue.send .provision (.provision instanceId payload)
        return .operation "provision"

def planOr (planId : Option String) (current : String) : String :=
  match planId with
  | some plan => if plan = "" then current else plan  -- an empty plan is false
  | none => current

def updateInstance (now instanceId : String) (payload : UpdateRequest)
    (acceptsIncomplete : Bool) : Handler Body :=
  if !acceptsIncomplete then
    osbError .asyncRequired "updates are asynchronous; pass accepts_incomplete=true"
  else do
    let inst ← InstanceStore.get instanceId
    -- without a condition, whatever was written since the row was read
    InstanceStore.transition instanceId
      { state := .updating
        updatedAt := now
        description := "update queued"
        operation := "update"
        planId := planOr payload.planId inst.planId
        parameters := inst.parameters.merge payload.parameters }
    TaskQueue.send .provision (.update instanceId payload.serviceId
      (planOr payload.planId inst.planId) (inst.parameters.merge payload.parameters))
    return .operation "update"

def deprovisionInstance (now instanceId serviceId planId : String) (acceptsIncomplete : Bool) :
    Handler Body :=
  if !acceptsIncomplete then
    osbError .asyncRequired "deprovisioning is asynchronous; pass accepts_incomplete=true"
  else do
    let inst ← InstanceStore.get instanceId
    if inst.serviceId ≠ serviceId ∨ inst.planId ≠ planId then
      osbError .badRequest "service_id/plan_id mismatch with the existing instance"
    else
      InstanceStore.transition instanceId
        { state := .deprovisioning
          updatedAt := now
          operation := "deprovision"
          description := "deprovision queued" }
      TaskQueue.send .provision (.deprovision instanceId)
      return .operation "deprovision"

def fetchInstance (instanceId : String) : Handler Body := do
  let inst ← InstanceStore.get instanceId
  return .fetchInstance inst.serviceId inst.planId inst.dashboardUrl inst.parameters

def InstanceState.operationState : InstanceState → OperationState
  | .provisioning => .inProgress
  | .updating => .inProgress
  | .deprovisioning => .inProgress
  | .available => .succeeded
  | .deleted => .succeeded
  | .failed => .failed
  | .other _ => .inProgress

def instanceLastOperation (instanceId : String) : Handler Body := do
  let inst ← InstanceStore.get instanceId
  return .lastOperation inst.state.operationState inst.lastOperationDescription

/-! ## Bindings -/

def BindCredentials.ofStored (c : Credentials) : BindCredentials where
  uri := c.uri.getD ""
  username := c.username.getD ""
  password := c.password.getD ""
  caCertificatePem := c.caCertificatePem

def InstanceState.bindable (state : InstanceState) : Prop :=
  state = .available ∨ state = .provisioning ∨ state = .updating
  deriving Decidable

def bindInstance (now instanceId bindingId : String) (payload : BindRequest) : Handler Body := do
  let inst ← InstanceStore.get instanceId
  if ¬inst.state.bindable then
    osbError .conflict s!"instance {instanceId} is not in a bindable state"
  else
    match (← BindingStore.getOrNone bindingId instanceId).filter fun existing =>
        existing.serviceId = payload.serviceId ∧ existing.planId = payload.planId with
    | some existing => return .bind (.ofStored existing.credentials)
    | none =>
        -- also when there is a binding of another service or plan, and then the put fails
        let _ ← BindingStore.create now bindingId instanceId payload.serviceId payload.planId
          payload.parameters
        TaskQueue.send .binding (.bind instanceId bindingId payload)
        return .bind {
          uri := s!"https://{instanceId}.internal.regnant.local"
          username := s!"binding-{bindingId}"
          password := "pending-rotation" }

def unbindInstance (instanceId bindingId serviceId planId : String) : Handler Body := do
  let binding ← BindingStore.get bindingId instanceId
  if binding.serviceId ≠ serviceId ∨ binding.planId ≠ planId then
    osbError .badRequest "service_id/plan_id mismatch with the existing binding"
  else
    TaskQueue.send .binding (.unbind instanceId bindingId)
    BindingStore.delete bindingId instanceId
    return .operation "unbind"

def fetchBinding (instanceId bindingId : String) : Handler Body := do
  let binding ← BindingStore.get bindingId instanceId
  return .fetchBinding
    (if binding.credentials = {} then none else some (.ofStored binding.credentials))
    binding.parameters

def BindingState.operationState : BindingState → OperationState
  | .binding => .inProgress
  | .bound => .succeeded
  | .failed => .failed
  | .other _ => .inProgress

def bindingLastOperation (instanceId bindingId : String) : Handler Body := do
  match ← (BindingStore.get bindingId instanceId).attempt with
  | .ok binding => return .lastOperation binding.state.operationState none
  | .error (.osb ⟨.bindingNotFound, _⟩) => return .lastOperation .succeeded (some "binding gone")
  | .error e => .raise e

/-! ## The application -/

/-- Run a route: its status on success, the mapped status of a domain error, and 500 for any other
exception. -/
def respond (status : Nat) (route : Handler Body) : Handler Response := do
  match ← route.attempt with
  | .ok body => return ⟨status, body⟩
  | .error (.osb e) => return ⟨e.kind.statusCode, .error e.kind.errorCode e.message⟩
  | .error _ => return ⟨500, .serverError⟩

def validInstanceId (instanceId : String) : Prop :=
  1 ≤ instanceId.length ∧ instanceId.length ≤ 128
  deriving Decidable

def app (now : String) : Request → Handler Response
  | .provision id payload acceptsIncomplete =>
      if validInstanceId id then respond 202 (provisionInstance now id payload acceptsIncomplete)
      else return ⟨422, .validationError⟩
  | .update id payload acceptsIncomplete =>
      respond 202 (updateInstance now id payload acceptsIncomplete)
  | .deprovision id serviceId planId acceptsIncomplete =>
      respond 200 (deprovisionInstance now id serviceId planId acceptsIncomplete)
  | .fetchInstance id => respond 200 (fetchInstance id)
  | .instanceLastOperation id => respond 200 (instanceLastOperation id)
  | .bind id bid payload => respond 201 (bindInstance now id bid payload)
  | .unbind id bid serviceId planId => respond 200 (unbindInstance id bid serviceId planId)
  | .fetchBinding id bid => respond 200 (fetchBinding id bid)
  | .bindingLastOperation id bid => respond 200 (bindingLastOperation id bid)

end Regnant.Osb
