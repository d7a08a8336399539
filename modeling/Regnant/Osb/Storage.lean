import Mathlib.Logic.Function.Basic
import Regnant.Lib.CallTree
import Regnant.Osb.SovereignYaml

namespace Regnant.Osb

inductive InstanceState where
  | provisioning
  | updating
  | deprovisioning
  | available
  | deleted
  | failed
  | other (name : String)
  deriving DecidableEq

structure Instance where
  instanceId : String
  serviceId : String
  planId : String
  state : InstanceState
  parameters : Dict
  context : Dict
  artifactKey : Option String
  createdAt : String
  updatedAt : String
  lastOperation : Option String
  lastOperationDescription : Option String
  dashboardUrl : Option String
  deriving DecidableEq

/-- An item of the instances table, whose key is held by the table. Any attribute may be missing;
the last four are read with `item.get`, for which a missing one and a null one are the same. -/
structure InstanceItem where
  serviceId : Option String := none
  planId : Option String := none
  state : Option InstanceState := none
  parameters : Option Dict := none
  context : Option Dict := none
  createdAt : Option String := none
  updatedAt : Option String := none
  artifactKey : Option String := none
  lastOperation : Option String := none
  lastOperationDescription : Option String := none
  dashboardUrl : Option String := none
  deriving DecidableEq

inductive BindingState where
  | binding
  | bound
  | failed
  | other (name : String)
  deriving DecidableEq

structure Credentials where
  uri : Option String := none
  username : Option String := none
  password : Option String := none
  caCertificatePem : Option String := none
  deriving DecidableEq

structure Binding where
  bindingId : String
  instanceId : String
  serviceId : String
  planId : String
  state : BindingState
  credentials : Credentials
  parameters : Dict
  createdAt : String
  updatedAt : String
  deriving DecidableEq

structure BindingItem where
  serviceId : Option String := none
  planId : Option String := none
  state : Option BindingState := none
  credentials : Option Credentials := none
  parameters : Option Dict := none
  createdAt : Option String := none
  updatedAt : Option String := none
  deriving DecidableEq

def require {α : Type} (key : String) : Option α → Except Exn α
  | some a => .ok a
  | none => .error (.keyError key)

def instanceFromItem (instanceId : String) (item : InstanceItem) : Except Exn Instance := do
  let serviceId ← require "service_id" item.serviceId
  let planId ← require "plan_id" item.planId
  let state ← require "state" item.state
  let createdAt ← require "created_at" item.createdAt
  let updatedAt ← require "updated_at" item.updatedAt
  return {
    instanceId, serviceId, planId, state, createdAt, updatedAt
    parameters := item.parameters.getD ∅
    context := item.context.getD ∅
    artifactKey := item.artifactKey
    lastOperation := item.lastOperation
    lastOperationDescription := item.lastOperationDescription
    dashboardUrl := item.dashboardUrl }

def bindingFromItem (bindingId instanceId : String) (item : BindingItem) :
    Except Exn Binding := do
  let serviceId ← require "service_id" item.serviceId
  let planId ← require "plan_id" item.planId
  let state ← require "state" item.state
  let createdAt ← require "created_at" item.createdAt
  let updatedAt ← require "updated_at" item.updatedAt
  return {
    bindingId, instanceId, serviceId, planId, state, createdAt, updatedAt
    credentials := item.credentials.getD {}
    parameters := item.parameters.getD ∅ }

/-! ## Messages -/

inductive Op where
  | provision
  | update
  | deprovision
  | bind
  | unbind
  | unknown (name : String)
  deriving DecidableEq

structure Payload where
  op : Option Op := none
  instanceId : Option String := none
  bindingId : Option String := none
  serviceId : Option String := none
  planId : Option String := none
  parameters : Option Dict := none
  context : Option Dict := none
  deriving DecidableEq

/-- A message body by what `json.loads` makes of it: an error, a value that is no object, or an
object. -/
inductive MessageBody where
  | malformed (text : String)
  | scalar (value : Value)
  | object (payload : Payload)
  deriving DecidableEq

structure ExecutionName where
  subject : String
  serial : Nat
  deriving DecidableEq

/-- A queue message. Its receipt handle is the name of the execution that sent it, which sends no
other message. -/
structure Message where
  receiptHandle : ExecutionName
  body : MessageBody
  deriving DecidableEq

def Message.payload (m : Message) : Option Payload :=
  match m.body with
  | .object payload => some payload
  | _ => none

def Message.about (m : Message) : Option String :=
  m.payload.bind Payload.instanceId

inductive QueueName where
  | provision
  | binding
  deriving DecidableEq

/-! ## The AWS side -/

structure Settings where
  artifactPrefix : String := "envoy-resources/"

def Settings.artifactKey (settings : Settings) (instanceId : String) : String :=
  settings.artifactPrefix ++ instanceId ++ ".yaml"

theorem Settings.artifactKey_injective (settings : Settings) :
    Function.Injective settings.artifactKey := by
  intro a b same
  simpa [artifactKey] using same

/-- The two tables, the bucket and the two queues. A queue is the list of its messages that no
worker has received yet, in the order they were sent; `deleted` are the messages taken off for
good. -/
structure Aws where
  instances : String → Option InstanceItem
  bindings : String × String → Option BindingItem
  bucket : String → Option Value
  provisionTasks : List Message
  bindingTasks : List Message
  deleted : List (QueueName × ExecutionName)

def Aws.empty : Aws where
  instances := fun _ => none
  bindings := fun _ => none
  bucket := fun _ => none
  provisionTasks := []
  bindingTasks := []
  deleted := []

def Aws.tasks (w : Aws) : QueueName → List Message
  | .provision => w.provisionTasks
  | .binding => w.bindingTasks

def Aws.setTasks (w : Aws) (queue : QueueName) (messages : List Message) : Aws :=
  match queue with
  | .provision => { w with provisionTasks := messages }
  | .binding => { w with bindingTasks := messages }

structure InstanceUpdate where
  state : InstanceState
  updatedAt : String
  description : Option String := none
  operation : Option String := none
  artifactKey : Option String := none
  planId : Option String := none
  parameters : Option Dict := none
  dashboardUrl : Option String := none
  deriving DecidableEq

def InstanceUpdate.apply (u : InstanceUpdate) (item : InstanceItem) : InstanceItem :=
  { item with
    state := some u.state
    updatedAt := some u.updatedAt
    lastOperationDescription := u.description.or item.lastOperationDescription
    lastOperation := u.operation.or item.lastOperation
    artifactKey := u.artifactKey.or item.artifactKey
    planId := u.planId.or item.planId
    parameters := u.parameters.or item.parameters
    dashboardUrl := u.dashboardUrl.or item.dashboardUrl }

structure BindingUpdate where
  state : BindingState
  credentials : Credentials
  updatedAt : String
  deriving DecidableEq

def BindingUpdate.apply (u : BindingUpdate) (item : BindingItem) : BindingItem :=
  { item with
    state := some u.state, credentials := some u.credentials, updatedAt := some u.updatedAt }

/-- The calls that the storage classes make. Both `put` calls carry the condition that the item
does not exist. -/
inductive Call where
  | getInstance (instanceId : String)
  | putInstance (instanceId : String) (item : InstanceItem)
  | updateInstance (instanceId : String) (update : InstanceUpdate)
  | deleteInstance (instanceId : String)
  | getBinding (bindingId instanceId : String)
  | putBinding (bindingId instanceId : String) (item : BindingItem)
  | updateBinding (bindingId instanceId : String) (update : BindingUpdate)
  | deleteBinding (bindingId instanceId : String)
  | putObject (key : String) (body : Value)
  | deleteObject (key : String)
  | sendMessage (queue : QueueName) (payload : Payload)
  | deleteMessage (queue : QueueName) (receiptHandle : ExecutionName)

abbrev Call.Result : Call → Type
  | .getInstance _ => Option InstanceItem
  | .getBinding _ _ => Option BindingItem
  | _ => Unit

abbrev Handler := CallTree Call Call.Result Exn

abbrev invoke (c : Call) : Handler c.Result :=
  CallTree.invoke c

/-- What AWS does on a call of the execution `self`, for tables that hand out what was last written.
What boto3 makes of numbers is in `Codec`. An update makes the item when there is none. -/
def perform (self : ExecutionName) : (c : Call) → Aws → Except Exn c.Result × Aws
  | .getInstance id, w => (.ok (w.instances id), w)
  | .putInstance id item, w =>
      match w.instances id with
      | some _ => (.error .conditionalCheckFailed, w)
      | none => (.ok (), { w with instances := Function.update w.instances id (some item) })
  | .updateInstance id u, w =>
      (.ok (), { w with
        instances := Function.update w.instances id (some (u.apply ((w.instances id).getD {}))) })
  | .deleteInstance id, w => (.ok (), { w with instances := Function.update w.instances id none })
  | .getBinding bid id, w => (.ok (w.bindings (bid, id)), w)
  | .putBinding bid id item, w =>
      match w.bindings (bid, id) with
      | some _ => (.error .conditionalCheckFailed, w)
      | none => (.ok (), { w with bindings := Function.update w.bindings (bid, id) (some item) })
  | .updateBinding bid id u, w =>
      (.ok (), { w with
        bindings := Function.update w.bindings (bid, id)
          (some (u.apply ((w.bindings (bid, id)).getD {}))) })
  | .deleteBinding bid id, w =>
      (.ok (), { w with bindings := Function.update w.bindings (bid, id) none })
  | .putObject key body, w =>
      (.ok (), { w with bucket := Function.update w.bucket key (some body) })
  | .deleteObject key, w => (.ok (), { w with bucket := Function.update w.bucket key none })
  | .sendMessage .provision payload, w =>
      (.ok (), { w with provisionTasks := w.provisionTasks ++ [⟨self, .object payload⟩] })
  | .sendMessage .binding payload, w =>
      (.ok (), { w with bindingTasks := w.bindingTasks ++ [⟨self, .object payload⟩] })
  | .deleteMessage queue receipt, w => (.ok (), { w with deleted := (queue, receipt) :: w.deleted })

/-! ## The storage classes

The reading of the clock that a method takes with `_now()` is an argument. -/

def osbError {α : Type} (kind : OsbErrorKind) (message : String) : Handler α :=
  .raise (.osb ⟨kind, message⟩)

namespace InstanceStore

def get (instanceId : String) : Handler Instance := do
  match ← invoke (.getInstance instanceId) with
  | none => osbError .instanceNotFound s!"instance {instanceId} not found"
  | some item => CallTree.ofExcept (instanceFromItem instanceId item)

def getOrNone (instanceId : String) : Handler (Option Instance) := do
  match ← (get instanceId).attempt with
  | .ok inst => return some inst
  | .error (.osb ⟨.instanceNotFound, _⟩) => return none
  | .error e => .raise e

def newItem (now serviceId planId : String) (parameters context : Dict) : InstanceItem where
  serviceId := serviceId
  planId := planId
  state := some .provisioning
  parameters := parameters
  context := context
  artifactKey := none
  createdAt := now
  updatedAt := now
  lastOperation := "provision"
  lastOperationDescription := "queued"
  dashboardUrl := none

def create (now instanceId serviceId planId : String) (parameters context : Dict) :
    Handler Instance := do
  let item := newItem now serviceId planId parameters context
  match ← (invoke (.putInstance instanceId item)).attempt with
  | .error .conditionalCheckFailed =>
      osbError .concurrencyError s!"instance {instanceId} already exists"
  | .error e => .raise e
  | .ok () => CallTree.ofExcept (instanceFromItem instanceId item)

def transition (instanceId : String) (update : InstanceUpdate) : Handler Unit :=
  invoke (.updateInstance instanceId update)

def delete (instanceId : String) : Handler Unit :=
  invoke (.deleteInstance instanceId)

end InstanceStore

namespace BindingStore

def get (bindingId instanceId : String) : Handler Binding := do
  match ← invoke (.getBinding bindingId instanceId) with
  | none => osbError .bindingNotFound s!"binding {bindingId} not found"
  | some item => CallTree.ofExcept (bindingFromItem bindingId instanceId item)

def getOrNone (bindingId instanceId : String) : Handler (Option Binding) := do
  match ← (get bindingId instanceId).attempt with
  | .ok binding => return some binding
  | .error (.osb ⟨.bindingNotFound, _⟩) => return none
  | .error e => .raise e

def newItem (now serviceId planId : String) (parameters : Dict) : BindingItem where
  serviceId := serviceId
  planId := planId
  state := some .binding
  credentials := some {}
  parameters := parameters
  createdAt := now
  updatedAt := now

def create (now bindingId instanceId serviceId planId : String) (parameters : Dict) :
    Handler Binding := do
  let item := newItem now serviceId planId parameters
  match ← (invoke (.putBinding bindingId instanceId item)).attempt with
  | .error .conditionalCheckFailed =>
      osbError .concurrencyError s!"binding {bindingId} already exists"
  | .error e => .raise e
  | .ok () => CallTree.ofExcept (bindingFromItem bindingId instanceId item)

def complete (now bindingId instanceId : String) (credentials : Credentials) : Handler Unit :=
  invoke (.updateBinding bindingId instanceId ⟨.bound, credentials, now⟩)

def delete (bindingId instanceId : String) : Handler Unit :=
  invoke (.deleteBinding bindingId instanceId)

end BindingStore

namespace ArtifactStore

def write (settings : Settings) (instanceId : String) (document : Value) : Handler String := do
  invoke (.putObject (settings.artifactKey instanceId) document)
  return settings.artifactKey instanceId

def delete (settings : Settings) (instanceId : String) : Handler Unit :=
  invoke (.deleteObject (settings.artifactKey instanceId))

end ArtifactStore

namespace TaskQueue

def send (queue : QueueName) (payload : Payload) : Handler Unit :=
  invoke (.sendMessage queue payload)

def delete (queue : QueueName) (receiptHandle : ExecutionName) : Handler Unit :=
  invoke (.deleteMessage queue receiptHandle)

end TaskQueue

end Regnant.Osb
