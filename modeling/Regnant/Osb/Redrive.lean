import Regnant.Osb.Broker

/-!
# Redrive of the provision queue

A message that its handling leaves on the queue is received again, at any later time. Once it was
received `maxReceiveCount` times, the next receive moves it to the dead-letter queue instead.
-/

namespace Regnant.Osb

structure Returned where
  message : Message
  receiveCount : Nat

structure Redriven where
  broker : Broker
  returned : List Returned := []
  deadLetters : List Message := []

inductive Receipt where
  | first (i : Step)
  | again (k : Nat) (draws : Draws)

namespace Redriven

def returning (w w' : Aws) (message : Message) (receiveCount : Nat) : List Returned :=
  if w.deleted.length < w'.deleted.length then [] else [⟨message, receiveCount⟩]

/-- A step of the broker, whose worker receives messages for the first time in send order, or a
further receive of a message that was returned. -/
def step (settings : Settings) (maxReceiveCount : Nat) (s : Redriven) : Receipt → Redriven
  | .first i =>
      let broker := s.broker.step settings i
      match i, s.broker.aws.provisionTasks with
      | .work .provision _, message :: _ =>
          { s with
            broker
            returned := s.returned ++ returning s.broker.aws broker.aws message 1 }
      | _, _ => { s with broker }
  | .again k draws =>
      match s.returned[k]? with
      | none => s
      | some ⟨message, receiveCount⟩ =>
          if receiveCount < maxReceiveCount then
            let aws := s.broker.aws.handle settings .provision draws message
            { s with
              broker := ⟨aws, s.broker.history ++ [.handled s.broker.aws .provision message]⟩
              returned := s.returned.eraseIdx k ++
                returning s.broker.aws aws message (receiveCount + 1) }
          else
            { s with
              returned := s.returned.eraseIdx k
              deadLetters := s.deadLetters ++ [message] }

abbrev after (settings : Settings) (maxReceiveCount : Nat) (receipts : List Receipt) : Redriven :=
  Machine.exec (step settings maxReceiveCount) ⟨.init, [], []⟩ receipts

def messages (s : Redriven) : List Message :=
  s.broker.aws.provisionTasks ++ s.returned.map Returned.message

end Redriven

end Regnant.Osb
