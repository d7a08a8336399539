import Regnant.Osb.Worker

/-!
# The worker on the text of its messages

The worker checks no member of a message body: each may be missing or hold any JSON value. What
`json.loads`, `str`, `yaml.safe_dump` and the rendering of a log line make of a value are arguments.
-/

namespace Regnant.Osb.Untyped

inductive LoadsError where
  | decodeError
  | other (e : Exn)
  deriving DecidableEq

inductive LogLevel where
  | info
  | warning
  | error

/-- `logs` is what the logger raises on a line that holds the value, and `err` is `str` of an
exception that is none of the broker's own. -/
structure Library (Bytes : Type) where
  loads : String → Except LoadsError Value
  str : Value → String
  safeDump : Value → Except Exn Bytes
  logs : LogLevel → Value → Except Exn Unit
  err : Exn → String

structure WorkerSettings where
  artifactPrefix : String := "envoy-resources/"
  workerPollSeconds : Nat := 20
  workerMaxMessages : Nat := 5
  workerVisibilitySeconds : Nat := 90

structure Message where
  receiptHandle : ExecutionName
  body : Option String
  messageId : Option String
  deriving DecidableEq

structure InstanceUpdate where
  state : InstanceState
  updatedAt : String
  description : Option String := none
  operation : Option String := none
  artifactKey : Option String := none
  planId : Value := .none
  parameters : Value := .none
  dashboardUrl : Option String := none
  deriving DecidableEq

inductive Call (Bytes : Type) where
  | getInstance (instanceId : Value)
  | updateInstance (instanceId : Value) (update : InstanceUpdate)
  | deleteInstance (instanceId : Value)
  | updateBinding (bindingId instanceId : Value) (update : BindingUpdate)
  | putObject (key : String) (body : Bytes)
  | deleteObject (key : String)
  | receiveMessage (queue : QueueName) (maxMessages waitSeconds visibilitySeconds : Nat)
  | deleteMessage (queue : QueueName) (receiptHandle : ExecutionName)

variable {Bytes : Type}

abbrev Call.Result : Call Bytes → Type
  | .getInstance _ => Option InstanceItem
  | .receiveMessage _ _ _ _ => List Message
  | _ => Unit

abbrev Handler (Bytes : Type) := CallTree (Call Bytes) Call.Result Exn

abbrev invoke (c : Call Bytes) : Handler Bytes c.Result :=
  CallTree.invoke c

def logLine (lib : Library Bytes) (level : LogLevel) (event : String)
    (fields : List (String × Value)) : Handler Bytes Unit :=
  CallTree.ofExcept ((("event", .str event) :: fields).forM fun field => lib.logs level field.2)

def get (v : Value) (key : String) : Except Exn (Option Value) :=
  match v with
  | .dict items => .ok (items.lookup key)
  | _ => .error .attributeError

def defaultUpstream : Value → Except Exn Value
  | .str serviceId => .ok (Osb.defaultUpstream serviceId)
  | _ => .error .attributeError

def document (instanceId serviceId planId : Value) (name : String) (listenPort : Int)
    (host port domains : Value) : Value :=
  .dict [
    ("metadata", .dict [
      ("instance_id", instanceId),
      ("service_id", serviceId),
      ("plan_id", planId)]),
    ("clusters", .list [
      .dict [
        ("name", .str (clusterName name)),
        ("connect_timeout", .str "2s"),
        ("type", .str "STRICT_DNS"),
        ("lb_policy", .str "ROUND_ROBIN"),
        ("transport_socket_matches", transportSocketMatches),
        ("load_assignment", .dict [
          ("cluster_name", .str (clusterName name)),
          ("endpoints", .list [
            .dict [("lb_endpoints", .list [
              .dict [("endpoint", .dict [("address", .dict [("socket_address", .dict [
                ("address", host),
                ("port_value", port)])])])]])]])]),
        ("health_checks", .list [
          .dict [
            ("timeout", .str "1s"),
            ("interval", .str "5s"),
            ("unhealthy_threshold", .int 2),
            ("healthy_threshold", .int 2),
            ("http_health_check", .dict [("path", .str "/health")])]])]]),
    ("routes", .list [
      .dict [
        ("name", .str (routeName name)),
        ("virtual_hosts", .list [
          .dict [
            ("name", .str ("vhost-" ++ name)),
            ("domains", domains),
            ("routes", .list [
              .dict [
                ("match", .dict [("prefix", .str "/")]),
                ("route", .dict [
                  ("cluster", .str (clusterName name)),
                  ("timeout", .str "30s")])]])]])]]),
    ("listeners", .list [
      .dict [
        ("name", .str (listenerName name)),
        ("address", .dict [("socket_address", .dict [
          ("address", .str "0.0.0.0"),
          ("port_value", .int listenPort)])]),
        ("filter_chains", .list [
          .dict [("filters", .list [
            .dict [
              ("name", .str "envoy.filters.network.http_connection_manager"),
              ("typed_config", httpConnectionManager (routeName name))]])]])]]),
    ("secrets", .list [])]

def renderResources (lib : Library Bytes) (instanceId serviceId planId : Value)
    (parameters : String → Except Exn (Option Value)) : Except Exn Bytes := do
  let upstream ←
    match ← parameters "upstream" with
    | some v => if v.truthy then .ok v else defaultUpstream serviceId
    | none => defaultUpstream serviceId
  let listenPort ← ((← parameters "listen_port").getD (.int 10000)).toInt
  let host ← upstream.item "host"
  let port ← upstream.item "port"
  let domains := (← parameters "domains").getD (.list [.str "*"])
  lib.safeDump
    (document instanceId serviceId planId (lib.str instanceId) listenPort host port domains)

namespace InstanceStore

def get (lib : Library Bytes) (instanceId : Value) : Handler Bytes Instance := do
  match ← invoke (.getInstance instanceId) with
  | none =>
      .raise (.osb ⟨.instanceNotFound, s!"instance {lib.str instanceId} not found"⟩)
  | some item => CallTree.ofExcept (instanceFromItem (lib.str instanceId) item)

def transition (instanceId : Value) (update : InstanceUpdate) : Handler Bytes Unit :=
  invoke (.updateInstance instanceId update)

def delete (instanceId : Value) : Handler Bytes Unit :=
  invoke (.deleteInstance instanceId)

end InstanceStore

namespace BindingStore

def complete (now : String) (bindingId instanceId : Value) (credentials : Credentials) :
    Handler Bytes Unit :=
  invoke (.updateBinding bindingId instanceId ⟨.bound, credentials, now⟩)

end BindingStore

namespace ArtifactStore

def key (settings : WorkerSettings) (lib : Library Bytes) (instanceId : Value) : String :=
  settings.artifactPrefix ++ lib.str instanceId ++ ".yaml"

def write (settings : WorkerSettings) (lib : Library Bytes) (instanceId : Value) (body : Bytes) :
    Handler Bytes String := do
  invoke (.putObject (key settings lib instanceId) body)
  return key settings lib instanceId

def delete (settings : WorkerSettings) (lib : Library Bytes) (instanceId : Value) :
    Handler Bytes Unit :=
  invoke (.deleteObject (key settings lib instanceId))

end ArtifactStore

namespace TaskQueue

def receive (queue : QueueName) (maxMessages waitSeconds visibilitySeconds : Nat) :
    Handler Bytes (List Message) :=
  invoke (.receiveMessage queue maxMessages waitSeconds visibilitySeconds)

def delete (queue : QueueName) (receiptHandle : ExecutionName) : Handler Bytes Unit :=
  invoke (.deleteMessage queue receiptHandle)

end TaskQueue

namespace Worker
variable (lib : Library Bytes) (settings : WorkerSettings)

abbrev Members := List (String × Value)

def subscript (payload : Members) (key : String) : Handler Bytes Value :=
  CallTree.ofExcept (require key (payload.lookup key))

def provisioned (now : String) (instanceId : Value) : InstanceUpdate where
  state := .available
  updatedAt := now
  description := "provisioned"
  operation := "provision"
  artifactKey := ArtifactStore.key settings lib instanceId
  dashboardUrl := s!"https://api.regnant.local/dashboard/{lib.str instanceId}"

def provision (now : String) (payload : Members) : Handler Bytes Unit := do
  let instanceId ← subscript payload "instance_id"
  let serviceId ← subscript payload "service_id"
  let planId ← subscript payload "plan_id"
  let body ← CallTree.ofExcept (renderResources lib instanceId serviceId planId
    (get ((payload.lookup "parameters").getD (.dict []))))
  let _ ← ArtifactStore.write settings lib instanceId body
  InstanceStore.transition instanceId (provisioned lib settings now instanceId)

def updated (now : String) (instanceId : Value) (payload : Members) : InstanceUpdate where
  state := .available
  updatedAt := now
  description := "updated"
  operation := "update"
  artifactKey := ArtifactStore.key settings lib instanceId
  planId := (payload.lookup "plan_id").getD .none
  parameters := (payload.lookup "parameters").getD .none

def renderUpdate (instanceId : Value) (payload : Members) (inst : Instance) : Except Exn Bytes :=
  renderResources lib instanceId ((payload.lookup "service_id").getD (.str inst.serviceId))
    ((payload.lookup "plan_id").getD (.str inst.planId))
    (match payload.lookup "parameters" with
    | some parameters => get parameters
    | none => fun key => .ok (inst.parameters.lookup key))

def update (now : String) (payload : Members) : Handler Bytes Unit := do
  let instanceId ← subscript payload "instance_id"
  match ← (InstanceStore.get lib instanceId).attempt with
  | .error (.osb ⟨.instanceNotFound, _⟩) =>
      logLine lib .warning "update for missing instance" [("instance_id", instanceId)]
  | .error e => .raise e
  | .ok inst =>
      let body ← CallTree.ofExcept (renderUpdate lib instanceId payload inst)
      let _ ← ArtifactStore.write settings lib instanceId body
      InstanceStore.transition instanceId (updated lib settings now instanceId payload)

def deprovision (payload : Members) : Handler Bytes Unit := do
  let instanceId ← subscript payload "instance_id"
  ArtifactStore.delete settings lib instanceId
  InstanceStore.delete instanceId

def credentials (token : String) (instanceId bindingId : Value) : Credentials where
  uri := s!"https://{lib.str instanceId}.internal.regnant.local"
  username := s!"binding-{lib.str bindingId}"
  password := token

def bind (draws : Draws) (payload : Members) : Handler Bytes Unit := do
  let instanceId ← subscript payload "instance_id"
  let bindingId ← subscript payload "binding_id"
  BindingStore.complete draws.now bindingId instanceId
    (credentials lib draws.token instanceId bindingId)

def unbind (payload : Members) : Handler Bytes Unit := do
  let bindingId ← subscript payload "binding_id"
  logLine lib .info "unbind handled" [("binding_id", bindingId)]

def bound (messageId : Option String) (payload : Members) : List (String × Value) :=
  [("op", (payload.lookup "op").getD .none),
    ("message_id", (messageId.map .str).getD .none)]

def dispatch (draws : Draws) (messageId : Option String) (payload : Members) :
    Handler Bytes Unit :=
  let op := payload.lookup "op"
  if op = some (.str "provision") then provision lib settings draws.now payload
  else if op = some (.str "update") then update lib settings draws.now payload
  else if op = some (.str "deprovision") then deprovision lib settings payload
  else if op = some (.str "bind") then bind lib draws payload
  else if op = some (.str "unbind") then unbind lib payload
  else logLine lib .error "unknown op" (bound messageId payload)

def logFailure (messageId : Option String) (payload : Members) : Exn → Handler Bytes Unit
  | .osb e => logLine lib .error "op failed (domain)"
      (bound messageId payload ++
        [("err", .str e.message), ("error_code", .str e.kind.errorCode)])
  | e => logLine lib .error "op failed (unexpected)"
      (bound messageId payload ++ [("err", .str (lib.err e))])

/-- `_handle`. A failure of `json.loads` other than a `JSONDecodeError` is not caught, and the `get`
of a payload that is no dictionary is outside the `try`. -/
def handle (queue : QueueName) (draws : Draws) (message : Message) : Handler Bytes Unit :=
  match lib.loads (message.body.getD "\x7b\x7d") with
  | .error .decodeError => do
      logLine lib .error "malformed message body" [("body", .str (message.body.getD "\x7b\x7d"))]
      TaskQueue.delete queue message.receiptHandle
  | .error (.other e) => .raise e
  | .ok (.dict payload) => do
      match ← (dispatch lib settings draws message.messageId payload).attempt with
      | .error e => logFailure lib message.messageId payload e  -- outside of the `try`, too
      | .ok () => TaskQueue.delete queue message.receiptHandle
  | .ok _ => .raise .attributeError

/-! ## The loop -/

def handleAll (queue : QueueName) (draws : Message → Draws) : List Message → Handler Bytes Unit
  | [] => return ()
  | message :: messages => do
      handle lib settings queue (draws message) message
      handleAll queue draws messages

def tick (queue : QueueName) (draws : Message → Draws) : Handler Bytes Nat := do
  let messages ← TaskQueue.receive queue settings.workerMaxMessages settings.workerPollSeconds
    settings.workerVisibilitySeconds
  handleAll lib settings queue draws messages
  return messages.length

structure Round where
  stopping : Bool
  batch : QueueName → List Message
  draws : QueueName → Message → Draws

def Round.answering {σ : Type} (round : Round)
    (p : (c : Call Bytes) → σ → Except Exn c.Result × σ) :
    (c : Call Bytes) → σ → Except Exn c.Result × σ
  | .receiveMessage queue _ _ _, s => (.ok (round.batch queue), s)
  | c, s => p c s

inductive Status where
  | running
  | stopped
  | raised (e : Exn)
  deriving DecidableEq

def body (round : Round) : Handler Bytes Nat := do
  let provisioned ← tick lib settings .provision (round.draws .provision)
  let bound ← tick lib settings .binding (round.draws .binding)
  return provisioned + bound

def run {σ : Type} (p : (c : Call Bytes) → σ → Except Exn c.Result × σ) :
    List Round → σ → Status × σ
  | [], s => (.running, s)
  | round :: rounds, s =>
      if round.stopping then (.stopped, s)
      else
        match (body lib settings round).run (round.answering p) s with
        | (.ok _, s') => run p rounds s'
        | (.error e, s') => (.raised e, s')

end Worker

end Regnant.Osb.Untyped
