import Regnant.Lib.Machine
import Regnant.Osb.Worker

namespace Regnant.Osb

def Aws.answer (w : Aws) (self : ExecutionName) (now : String) (request : Request) :
    Response × Aws :=
  match (app now request).run (perform self) w with
  | (.ok response, w') => (response, w')
  | (.error _, w') => (⟨500, .serverError⟩, w')

def Aws.handle (settings : Settings) (w : Aws) (queue : QueueName) (draws : Draws)
    (message : Message) : Aws :=
  ((Worker.handle settings queue draws message).run (perform message.receiptHandle) w).2

/-! ## The broker with atomic requests and handlings -/

inductive Event where
  | answered (before : Aws) (request : Request) (response : Response)
  | handled (before : Aws) (queue : QueueName) (message : Message)

structure Broker where
  aws : Aws
  history : List Event := []

def Broker.init : Broker where
  aws := .empty

inductive Step where
  | request (request : Request) (serial : Nat) (now : String)
  | work (queue : QueueName) (draws : Draws)

/-- One API request, or the handling of the oldest message of a queue. -/
def Broker.step (settings : Settings) (s : Broker) : Step → Broker
  | .request request serial now =>
      let answer := s.aws.answer ⟨request.instanceId, serial⟩ now request
      ⟨answer.2, s.history ++ [.answered s.aws request answer.1]⟩
  | .work queue draws =>
      match s.aws.tasks queue with
      | [] => s
      | message :: rest =>
          ⟨(s.aws.setTasks queue rest).handle settings queue draws message,
            s.history ++ [.handled s.aws queue message]⟩

abbrev Broker.after (settings : Settings) (steps : List Step) : Broker :=
  Machine.exec (Broker.step settings) .init steps

def Broker.handledTasks (s : Broker) : List Message :=
  s.history.filterMap fun
    | .handled _ .provision message => some message
    | _ => none

/-! ## One request at a time -/

inductive InstanceRequest where
  | put (instanceId : { id // validInstanceId id }) (payload : ProvisionRequest)
  | patch (instanceId : { id // validInstanceId id }) (payload : UpdateRequest)
  | delete (instanceId : { id // validInstanceId id }) (serviceId planId : String)

def InstanceRequest.request : InstanceRequest → Request
  | .put id payload => .provision id payload true
  | .patch id payload => .update id payload true
  | .delete id serviceId planId => .deprovision id serviceId planId true

structure Round where
  request : InstanceRequest
  serial : Nat
  now : String
  draws : Nat → Draws

def Aws.drain (settings : Settings) (draws : Nat → Draws) : Nat → Aws → Aws
  | 0, w => w
  | n + 1, w =>
      match w.provisionTasks with
      | [] => w
      | message :: rest =>
          drain settings draws n
            ((w.setTasks .provision rest).handle settings .provision (draws n) message)

def Aws.serve (settings : Settings) (w : Aws) (round : Round) : Response × Aws :=
  let request := round.request.request
  let answer := w.answer ⟨request.instanceId, round.serial⟩ round.now request
  (answer.1, answer.2.drain settings round.draws answer.2.provisionTasks.length)

end Regnant.Osb
