import Regnant.Osb.Broker

namespace Regnant.Osb

/-- The call of an execution that raises, after it took effect or before. -/
structure Fault where
  call : Nat
  effect : Bool
  deriving DecidableEq

def Fault.calls (fault : Fault) : Nat :=
  fault.call + fault.effect.toNat

/-- Call number `n` takes effect. -/
def Spares (fault : Option Fault) (n : Nat) : Prop :=
  ∀ f ∈ fault, n < f.calls

instance (fault : Option Fault) (n : Nat) : Decidable (Spares fault n) :=
  inferInstanceAs (Decidable (∀ f ∈ fault, n < f.calls))

def Aws.execute {α : Type} (w : Aws) (self : ExecutionName) (fault : Option Fault)
    (t : Handler α) : Except Exn α × Aws :=
  match fault with
  | none => t.run (perform self) w
  | some fault => CallTree.runCut (perform self) .clientError fault.effect fault.call t w

def Aws.answerWith (w : Aws) (fault : Option Fault) (self : ExecutionName) (now : String)
    (request : Request) : Response × Aws :=
  match w.execute self fault (app now request) with
  | (.ok response, w') => (response, w')
  | (.error _, w') => (⟨500, .serverError⟩, w')

def Aws.handleWith (settings : Settings) (w : Aws) (queue : QueueName) (draws : Draws)
    (fault : Option Fault) (message : Message) : Aws :=
  (w.execute message.receiptHandle fault (Worker.handle settings queue draws message)).2

/-! ## Delivery at least once -/

inductive Finished where
  | answered (request : Request) (response : Response)
  | handled (queue : QueueName) (message : Message) (fault : Option Fault)

/-- The broker with a worker that handles the messages of a queue in send order, while the queue may
deliver any message of the provision queue again. -/
structure Deliveries where
  aws : Aws
  history : List Finished := []

def Deliveries.tasks (s : Deliveries) : List Message :=
  s.history.filterMap fun
    | .handled .provision message _ => some message
    | _ => none

inductive Delivery where
  | request (request : Request) (serial : Nat) (now : String) (fault : Option Fault)
  | first (queue : QueueName) (draws : Draws) (fault : Option Fault)
  | again (k : Nat) (draws : Draws) (fault : Option Fault)

def Delivery.fault : Delivery → Option Fault
  | .request _ _ _ fault => fault
  | .first _ _ fault => fault
  | .again _ _ fault => fault

def Deliveries.step (settings : Settings) (s : Deliveries) : Delivery → Deliveries
  | .request request serial now fault =>
      let answer := s.aws.answerWith fault ⟨request.instanceId, serial⟩ now request
      ⟨answer.2, s.history ++ [.answered request answer.1]⟩
  | .first queue draws fault =>
      match s.aws.tasks queue with
      | [] => s
      | message :: rest =>
          ⟨(s.aws.setTasks queue rest).handleWith settings queue draws fault message,
            s.history ++ [.handled queue message fault]⟩
  | .again k draws fault =>
      match s.tasks[k]? with
      | none => s
      | some message =>
          ⟨s.aws.handleWith settings .provision draws fault message,
            s.history ++ [.handled .provision message fault]⟩

abbrev Deliveries.after (settings : Settings) (deliveries : List Delivery) : Deliveries :=
  Machine.exec (Deliveries.step settings) ⟨.empty, []⟩ deliveries

/-! ## Requests cut short -/

def Aws.cut (w : Aws) (self : ExecutionName) (now : String) (request : Request) (n : Nat)
    (effect : Bool) : Aws :=
  (CallTree.runCut (perform self) .clientError effect n (app now request) w).2

inductive Aws.Retried (request : Request) : Aws → Aws → Prop where
  | accepted {w : Aws} (self : ExecutionName) (now : String)
      (accepted : (w.answer self now request).1.accepted) :
      Retried request w (w.answer self now request).2
  | rejected {w w' : Aws} (self : ExecutionName) (now : String)
      (rejected : ¬(w.answer self now request).1.accepted)
      (again : Retried request (w.answer self now request).2 w') : Retried request w w'

inductive Aws.Drained (settings : Settings) : Aws → Aws → Prop where
  | empty {w : Aws} (provision : w.provisionTasks = []) (binding : w.bindingTasks = []) :
      Drained settings w w
  | work {w w' : Aws} (queue : QueueName) (draws : Draws) {message : Message} {rest : List Message}
      (head : w.tasks queue = message :: rest)
      (drained :
        Drained settings ((w.setTasks queue rest).handle settings queue draws message) w') :
      Drained settings w w'

def InstanceItem.untimed (item : InstanceItem) : InstanceItem :=
  { item with
    createdAt := item.createdAt.map fun _ => ""
    updatedAt := item.updatedAt.map fun _ => "" }

def BindingItem.untimed (item : BindingItem) : BindingItem :=
  { item with
    createdAt := item.createdAt.map fun _ => ""
    updatedAt := item.updatedAt.map fun _ => ""
    credentials := item.credentials.map fun credentials =>
      { credentials with password := credentials.password.map fun _ => "" } }

structure Aws.Same (w w' : Aws) : Prop where
  instances : ∀ id, (w.instances id).map InstanceItem.untimed =
    (w'.instances id).map InstanceItem.untimed
  bindings : ∀ key, (w.bindings key).map BindingItem.untimed =
    (w'.bindings key).map BindingItem.untimed
  bucket : w.bucket = w'.bucket

/-- However the request was cut short at call `n`: once it was repeated until it was accepted and
the queues were drained, the tables and the bucket are as if it had not been cut. -/
def Aws.Completes (settings : Settings) (w : Aws) (request : Request) (n : Nat) (effect : Bool) :
    Prop :=
  ∀ self self' now now' retried final final',
    Retried request (w.cut self now request n effect) retried → Drained settings retried final →
    Drained settings (w.answer self' now' request).2 final' → final.Same final'

end Regnant.Osb
