import Regnant.Osb.Interleaving

namespace Regnant.Osb

structure Performed where
  before : Aws
  name : ThreadName
  thread : Thread
  outcome : Outcome

inductive Entry where
  | started (name : ExecutionName) (request : Request)
  | performed (p : Performed)
  | answered (name : ExecutionName) (answer : Answer)

structure Recorded where
  system : System
  records : List Entry := []

def Thread.answers (thread : Thread) : ThreadName → List Entry
  | .request name => thread.ended.join.toList.map (.answered name)
  | .handling _ _ => []

def System.records (s : System) : Action → List Entry
  | .start request serial now =>
      let name : ExecutionName := ⟨request.instanceId, serial⟩
      if .request name ∈ s.threads then []
      else
        (Thread.request request (app now request)).answers (.request name) ++
          [.started name request]
  | .receive _ _ _ _ => []
  | .again _ _ _ _ => []
  | .call name outcome =>
      match s.threads.lookup name with
      | none => []
      | some thread =>
          (thread.advance outcome name.self s.aws).1.answers name ++
            [.performed ⟨s.aws, name, thread, outcome⟩]

def Recorded.step (settings : Settings) (s : Recorded) (i : Action) : Recorded :=
  ⟨s.system.step settings i, s.system.records i ++ s.records⟩

abbrev Recorded.after (settings : Settings) (w : Aws) (actions : List Action) : Recorded :=
  Machine.exec (Recorded.step settings) ⟨⟨w, ∅, [], []⟩, []⟩ actions

def Entry.starts (name : ExecutionName) : Entry → Bool
  | .started name' _ => decide (name' = name)
  | _ => false

def Entry.performedBy (name : ExecutionName) : Entry → Option Performed
  | .performed p => if p.name = .request name then some p else none
  | _ => none

def execution (name : ExecutionName) (records : List Entry) : List Performed :=
  (records.takeWhile fun r => !r.starts name).filterMap (Entry.performedBy name)

def Call.reads : Call → Bool
  | .getInstance _ => true
  | .getBinding _ _ => true
  | _ => false

def changes (calls : List Performed) : List Performed :=
  calls.filter fun p => p.thread.next.any fun c => !c.reads

structure Payload.Describes (payload : Payload) (id : String) (item : InstanceItem) : Prop where
  op : payload.op = some .provision
  instanceId : payload.instanceId = some id
  serviceId : payload.serviceId = item.serviceId
  planId : payload.planId = item.planId
  parameters : payload.parameters = item.parameters
  context : payload.context = item.context

structure Payload.DescribesBinding (payload : Payload) (bid id : String) (item : BindingItem) :
    Prop where
  op : payload.op = some .bind
  instanceId : payload.instanceId = some id
  bindingId : payload.bindingId = some bid
  serviceId : payload.serviceId = item.serviceId
  planId : payload.planId = item.planId
  parameters : payload.parameters = item.parameters

namespace Performed

def Writes (p : Performed) : Prop :=
  p.outcome ≠ .fails false ∧
    match p.thread.next with
    | none => False
    | some (.getInstance _) => False
    | some (.getBinding _ _) => False
    | some (.putInstance id _) => p.before.instances id = none
    | some (.putBinding bid id _) => p.before.bindings (bid, id) = none
    | some _ => True

def CreatesInstance (p : Performed) (id : String) (item : InstanceItem) : Prop :=
  p.thread.next = some (.putInstance id item) ∧ p.outcome = .ok ∧ p.before.instances id = none

def CreatesBinding (p : Performed) (bid id : String) (item : BindingItem) : Prop :=
  p.thread.next = some (.putBinding bid id item) ∧ p.outcome = .ok ∧
    p.before.bindings (bid, id) = none

def Deprovisions (p : Performed) (id : String) : Prop :=
  p.thread.next = some (.deleteInstance id) ∧ p.outcome ≠ .fails false ∧
    ∃ message rest payload, p.thread = .handling message rest ∧ message.payload = some payload ∧
      payload.op = some .deprovision ∧ payload.instanceId = some id

def Unbinds (p : Performed) (bid id : String) : Prop :=
  p.thread.next = some (.deleteBinding bid id) ∧ p.outcome ≠ .fails false ∧
    ∃ service plan rest, p.thread = .request (.unbind id bid service plan) rest

def Sends (p : Performed) (payload : Payload) : Prop :=
  (∃ queue, p.thread.next = some (.sendMessage queue payload)) ∧ p.outcome ≠ .fails false

def Loses (p : Performed) : Prop :=
  (∃ id item, p.thread.next = some (.putInstance id item) ∧ p.before.instances id ≠ none) ∨
    ∃ bid id item, p.thread.next = some (.putBinding bid id item) ∧
      p.before.bindings (bid, id) ≠ none

def Creates (p : Performed) (payload : Payload) : Prop :=
  (∃ id item, p.CreatesInstance id item ∧ payload.Describes id item) ∨
    ∃ bid id item, p.CreatesBinding bid id item ∧ payload.DescribesBinding bid id item

end Performed

def Response.isOsbError (response : Response) : Prop :=
  ∃ code description, response.body = .error code description

end Regnant.Osb
