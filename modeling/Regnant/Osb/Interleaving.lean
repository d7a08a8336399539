import Regnant.Osb.Worker
import Regnant.Lib.Machine

/-!
# Requests and handlings call by call

Any number of requests and handlings are under way at once, and one call of one of them is made at
a time. What a program computes between two calls is done along with the first of them.
-/

namespace Regnant.Osb

inductive ThreadName where
  | request (name : ExecutionName)
  | handling (receiptHandle : ExecutionName) (delivery : Nat)
  deriving DecidableEq

def ThreadName.self : ThreadName → ExecutionName
  | .request name => name
  | .handling receiptHandle _ => receiptHandle

abbrev ThreadName.subject (name : ThreadName) : String :=
  name.self.subject

inductive Thread where
  | request (request : Request) (rest : Handler Response)
  | handling (message : Message) (rest : Handler Unit)

structure Answer where
  request : Request
  response : Response
  deriving DecidableEq

def Thread.ended : Thread → Option (Option Answer)
  | .request asked (.ret response) => some (some ⟨asked, response⟩)
  | .request asked (.raise _) => some (some ⟨asked, ⟨500, .serverError⟩⟩)
  | .handling _ (.ret _) => some none
  | .handling _ (.raise _) => some none
  | _ => none

def Thread.next : Thread → Option Call
  | .request _ rest => rest.next
  | .handling _ rest => rest.next

inductive Outcome where
  | ok
  | fails (effect : Bool)
  deriving DecidableEq

def Outcome.perform (outcome : Outcome) (self : ExecutionName) (c : Call) (w : Aws) :
    Except Exn c.Result × Aws :=
  match outcome with
  | .ok => Osb.perform self c w
  | .fails true => (.error .clientError, (Osb.perform self c w).2)
  | .fails false => (.error .clientError, w)

def Thread.advance (outcome : Outcome) (self : ExecutionName) (w : Aws) : Thread → Thread × Aws
  | .request asked rest =>
      let advanced := rest.advance (outcome.perform self) w
      (.request asked advanced.1, advanced.2)
  | .handling message rest =>
      let advanced := rest.advance (outcome.perform self) w
      (.handling message advanced.1, advanced.2)

/-- The tables, bucket and queues, the threads under way, the messages that were received and the
answers that were given, the last two newest first. -/
structure System where
  aws : Aws
  threads : Finmap fun _ : ThreadName => Thread := ∅
  received : List (QueueName × Message) := []
  answers : List Answer := []

inductive Action where
  | start (request : Request) (serial : Nat) (now : String)
  | receive (queue : QueueName) (receiptHandle : ExecutionName) (delivery : Nat) (draws : Draws)
  | again (queue : QueueName) (receiptHandle : ExecutionName) (delivery : Nat) (draws : Draws)
  | call (name : ThreadName) (outcome : Outcome)

def Action.subject : Action → String
  | .start request _ _ => request.instanceId
  | .receive _ receiptHandle _ _ => receiptHandle.subject
  | .again _ receiptHandle _ _ => receiptHandle.subject
  | .call name _ => name.subject

namespace System

def resume (s : System) (name : ThreadName) (thread : Thread) : System :=
  match thread.ended with
  | some answer =>
      { s with threads := s.threads.erase name, answers := answer.toList ++ s.answers }
  | none => { s with threads := s.threads.insert name thread }

def take (settings : Settings) (s : System) (queue : QueueName) (delivery : Nat) (draws : Draws)
    (message : Message) : System :=
  { s with received := (queue, message) :: s.received }.resume
    (.handling message.receiptHandle delivery)
    (.handling message (Worker.handle settings queue draws message))

/-- A request arrives; a waiting message is received, in any order, or one that was received before
is delivered again; or a thread makes its next call. A name that is in use is not given again. -/
def step (settings : Settings) (s : System) : Action → System
  | .start request serial now =>
      if .request ⟨request.instanceId, serial⟩ ∈ s.threads then s
      else
        s.resume (.request ⟨request.instanceId, serial⟩) (.request request (app now request))
  | .receive queue receiptHandle delivery draws =>
      if .handling receiptHandle delivery ∈ s.threads then s
      else
        match (s.aws.tasks queue).find? (·.receiptHandle = receiptHandle) with
        | none => s
        | some message =>
            { s with
              aws := s.aws.setTasks queue
                ((s.aws.tasks queue).eraseP (·.receiptHandle = receiptHandle)) }.take
              settings queue delivery draws message
  | .again queue receiptHandle delivery draws =>
      if .handling receiptHandle delivery ∈ s.threads then s
      else
        match s.received.find? fun r => r.1 = queue ∧ r.2.receiptHandle = receiptHandle with
        | none => s
        | some (_, message) => s.take settings queue delivery draws message
  | .call name outcome =>
      match s.threads.lookup name with
      | none => s
      | some thread =>
          { s with aws := (thread.advance outcome name.self s.aws).2 }.resume name
            (thread.advance outcome name.self s.aws).1

abbrev after (settings : Settings) (w : Aws) (actions : List Action) : System :=
  Machine.exec (step settings) ⟨w, ∅, [], []⟩ actions

def next (s : System) (name : ThreadName) : Option Call :=
  (s.threads.lookup name).bind Thread.next

end System

end Regnant.Osb
