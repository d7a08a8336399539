import Mathlib.Algebra.Order.Group.Nat
import Regnant.Lib.Redrive
import Regnant.Osb.Redrive
import Regnant.Proof.Calls
import Regnant.Proof.Creation

namespace Regnant.Osb
open CallTree

variable {settings : Settings} {queue : QueueName} {w : Aws} {m : Message}

def Call.Acknowledges : Call → Prop
  | .deleteMessage _ _ => True
  | _ => False

theorem dispatch_acknowledges (draws : Draws) (payload : Payload) :
    (Worker.dispatch settings draws payload).Calls fun c => ¬c.Acknowledges := by
  unfold Worker.dispatch
  split
  · exact calls_provision (fun _ _ _ => id) fun _ _ _ _ => id
  · exact calls_update (fun _ _ => id) (fun _ _ _ => id) fun _ _ _ _ => id
  · refine calls_subscript fun id _ => ?_
    exact calls_bind (calls_invoke fun h => h) fun _ => calls_invoke fun h => h
  · exact calls_subscript fun id _ => calls_subscript fun bid _ => calls_invoke fun h => h
  · exact calls_subscript fun _ _ => trivial
  · trivial

theorem perform_deleted {self : ExecutionName} {c : Call} (keeps : ¬c.Acknowledges) :
    (perform self c w).2.deleted = w.deleted := by
  cases c with
  | deleteMessage queue receipt => exact absurd trivial keeps
  | putInstance id item => simp only [perform]; split <;> rfl
  | putBinding bid id item => simp only [perform]; split <;> rfl
  | sendMessage queue payload => cases queue <;> rfl
  | _ => rfl

theorem handle_deleted (settings : Settings) (w : Aws) (queue : QueueName) (draws : Draws)
    (m : Message) :
    (w.handle settings queue draws m).deleted = w.deleted ∨
      (w.handle settings queue draws m).deleted = (queue, m.receiptHandle) :: w.deleted := by
  obtain ⟨receipt, body⟩ := m
  cases body with
  | malformed text => exact .inr rfl
  | scalar value => exact .inl rfl
  | object payload =>
      have kept : ((Worker.dispatch settings draws payload).run (perform receipt) w).2.deleted =
          w.deleted := by
        refine run_keeps (I := fun w' : Aws => w'.deleted = w.deleted) _
          (dispatch_acknowledges draws payload) (fun c w' keeps same => ?_) rfl
        rw [perform_deleted keeps, same]
      simp only [Aws.handle, Worker.handle, run_bind, run_attempt]
      cases ran : (Worker.dispatch settings draws payload).run (perform receipt) w with
      | mk result w' =>
          rw [ran] at kept
          cases result with
          | error e => exact .inl kept
          | ok _ => exact .inr (congrArg _ kept)

theorem handle_provisionTasks (settings : Settings) (w : Aws) (queue : QueueName) (draws : Draws)
    (m : Message) : (w.handle settings queue draws m).provisionTasks = w.provisionTasks := by
  refine run_keeps (I := fun w' : Aws => w'.provisionTasks = w.provisionTasks) _
    (calls_message settings queue draws m) (fun c w' c_in same => ?_) rfl
  rw [← same]
  obtain ⟨queue, rfl⟩ | ⟨queue, payload, -, c_in⟩ := c_in
  · rfl
  · cases c_in <;> rfl

theorem answer_queues (w : Aws) (self : ExecutionName) (now : String) (request : Request) :
    w.provisionTasks <+: (w.answer self now request).2.provisionTasks ∧
      (w.answer self now request).2.deleted = w.deleted := by
  rw [answer_snd]
  refine run_keeps (I := fun w' : Aws => w.provisionTasks <+: w'.provisionTasks ∧
    w'.deleted = w.deleted) _ (calls_app now request) (fun c w' c_in kept => ?_)
    ⟨List.prefix_refl _, rfl⟩
  refine ⟨kept.1.trans ?_, (perform_deleted ?_).trans kept.2⟩
  · show w'.tasks .provision <+: (perform self c w').2.tasks .provision
    rw [perform_tasks]
    exact List.prefix_append _ _
  · cases c_in <;> exact id

def Aws.acknowledgedTasks (w : Aws) : List ExecutionName :=
  w.deleted.filterMap fun d => if d.1 = .provision then some d.2 else none

def Aws.sentBy (w : Aws) (request : Request) (serial : Nat) (now : String) : List Message :=
  (w.answer ⟨request.instanceId, serial⟩ now request).2.provisionTasks.drop w.provisionTasks.length

namespace Redriven

def redriveQueue (s : Redriven) : Redrive.Queue ExecutionName where
  waiting := s.broker.aws.provisionTasks.map (·.receiptHandle)
  returned := s.returned.map fun r => (r.message.receiptHandle, r.receiveCount)
  dead := s.deadLetters.map (·.receiptHandle)
  done := s.broker.aws.acknowledgedTasks
  handled := s.broker.handledTasks.map (·.receiptHandle)

def acknowledges (settings : Settings) (maxReceiveCount : Nat) (s : Redriven) (i : Receipt) :
    Bool :=
  s.broker.aws.deleted.length < (s.step settings maxReceiveCount i).broker.aws.deleted.length

def move (settings : Settings) (maxReceiveCount : Nat) (s : Redriven) :
    Receipt → Redrive.Move ExecutionName
  | .first (.request request serial now) =>
      .send ((s.broker.aws.sentBy request serial now).map (·.receiptHandle))
  | .first (.work .binding _) => .send []
  | .first (.work .provision draws) =>
      .first (s.acknowledges settings maxReceiveCount (.first (.work .provision draws)))
  | .again k draws => .again k (s.acknowledges settings maxReceiveCount (.again k draws))

def sent (settings : Settings) (maxReceiveCount : Nat) (s : Redriven) (i : Receipt) :
    Multiset ExecutionName :=
  (s.move settings maxReceiveCount i).sent

def receives (settings : Settings) (maxReceiveCount : Nat) (s : Redriven) (i : Receipt) : Nat :=
  s.redriveQueue.receives (s.move settings maxReceiveCount i)

end Redriven

theorem acknowledgedTasks_handle (settings : Settings) (w : Aws) (queue : QueueName)
    (draws : Draws) (m : Message) :
    (w.handle settings queue draws m).acknowledgedTasks =
      if queue = .provision ∧
          w.deleted.length < (w.handle settings queue draws m).deleted.length then
        m.receiptHandle :: w.acknowledgedTasks
      else w.acknowledgedTasks := by
  obtain same | same := handle_deleted settings w queue draws m <;> cases queue <;>
    simp [Aws.acknowledgedTasks, same]

/-! ## Refinement -/

variable {maxReceiveCount : Nat} {s : Redriven}

theorem step_work {draws : Draws} {rest : List Message} {b : Broker}
    (head : b.aws.provisionTasks = m :: rest) :
    b.step settings (.work .provision draws) =
      ⟨({ b.aws with provisionTasks := rest } : Aws).handle settings .provision draws m,
        b.history ++ [.handled b.aws .provision m]⟩ := by
  simp only [Broker.step, Aws.tasks, head, Aws.setTasks]

theorem redriveQueue_handle (settings : Settings) (m : Message) {w₀ w : Aws}
    (same : w₀.deleted = w.deleted) (history : List Event) (before : Aws) (draws : Draws) (n : Nat)
    (returned : List Returned) (dead : List Message) :
    Redriven.redriveQueue
        ⟨⟨w.handle settings .provision draws m, history ++ [.handled before .provision m]⟩,
          returned ++ Redriven.returning w₀ (w.handle settings .provision draws m) m n, dead⟩ =
      (Redriven.redriveQueue ⟨⟨w, history⟩, returned, dead⟩).settle m.receiptHandle n
        (w₀.deleted.length < (w.handle settings .provision draws m).deleted.length) := by
  have waiting := handle_provisionTasks settings w .provision draws m
  have handled := acknowledgedTasks_handle settings w .provision draws m
  simp only [true_and] at handled
  rw [same]
  by_cases acknowledged :
      w.deleted.length < (w.handle settings .provision draws m).deleted.length
  · simp [Redriven.redriveQueue, Redriven.returning, Redrive.Queue.settle, waiting, handled, same,
      acknowledged, Broker.handledTasks]
  · simp [Redriven.redriveQueue, Redriven.returning, Redrive.Queue.settle, waiting, handled, same,
      acknowledged, Broker.handledTasks]

theorem redriveQueue_step (settings : Settings) (maxReceiveCount : Nat) (s : Redriven)
    (i : Receipt) :
    (s.step settings maxReceiveCount i).redriveQueue =
      s.redriveQueue.step maxReceiveCount (s.move settings maxReceiveCount i) := by
  cases i with
  | first i =>
      cases i with
      | request request serial now =>
          obtain ⟨⟨sent, tasks⟩, deleted⟩ :=
            answer_queues s.broker.aws ⟨request.instanceId, serial⟩ now request
          ext1
          · simp [Redriven.redriveQueue, Redriven.step, Broker.step, Redriven.move,
              Redrive.Queue.step, Aws.sentBy, ← tasks]
          · rfl
          · rfl
          · simp [Redriven.redriveQueue, Redriven.step, Broker.step, Redriven.move,
              Redrive.Queue.step, Aws.acknowledgedTasks, deleted]
          · simp [Redriven.redriveQueue, Redriven.step, Broker.step, Redriven.move,
              Redrive.Queue.step, Broker.handledTasks]
      | work queue draws =>
          cases queue with
          | binding =>
              cases tasks : s.broker.aws.bindingTasks with
              | nil =>
                  simp [Redriven.redriveQueue, Redriven.step, Broker.step, Redriven.move,
                    Redrive.Queue.step, Aws.tasks, tasks]
              | cons m rest =>
                  have handled := acknowledgedTasks_handle settings
                    (s.broker.aws.setTasks .binding rest) .binding draws m
                  have waiting := handle_provisionTasks settings
                    (s.broker.aws.setTasks .binding rest) .binding draws m
                  simp only [reduceCtorEq, false_and, if_false] at handled
                  simp only [Redriven.redriveQueue, Redriven.step, Broker.step, Redriven.move,
                    Redrive.Queue.step, Aws.tasks, tasks, handled, waiting]
                  simp [Aws.setTasks, Aws.acknowledgedTasks, Broker.handledTasks]
          | provision =>
              cases head : s.broker.aws.provisionTasks with
              | nil =>
                  simp [Redriven.redriveQueue, Redriven.step, Broker.step, Redriven.move,
                    Redrive.Queue.step, Aws.tasks, head]
              | cons m rest =>
                  have same : s.broker.aws.deleted =
                    ({ s.broker.aws with provisionTasks := rest } : Aws).deleted := rfl
                  have handled := redriveQueue_handle settings m same s.broker.history
                    s.broker.aws draws 1 s.returned s.deadLetters
                  simp only [Redriven.move, Redriven.acknowledges, Redriven.step, head,
                    step_work head, handled]
                  simp [Redriven.redriveQueue, Redrive.Queue.step, head]
                  rfl
  | again k draws =>
      cases found : s.returned[k]? with
      | none =>
          simp [Redriven.redriveQueue, Redriven.step, Redriven.move, Redrive.Queue.step, found]
      | some r =>
          obtain ⟨m, n⟩ := r
          by_cases few : n < maxReceiveCount
          · have same : s.broker.aws.deleted = s.broker.aws.deleted := rfl
            have handled := redriveQueue_handle settings m same s.broker.history s.broker.aws draws
              (n + 1) (s.returned.eraseIdx k) s.deadLetters
            simp only [Redriven.move, Redriven.acknowledges, Redriven.step, found, few, if_true,
              handled]
            simp [Redriven.redriveQueue, Redrive.Queue.step, found, few, List.eraseIdx_map]
          · simp [Redriven.redriveQueue, Redriven.step, Redriven.move, Redrive.Queue.step, found,
              few, List.eraseIdx_map]

theorem stepped_queue (settings : Settings) (maxReceiveCount : Nat) (s : Redriven) (i : Receipt) :
    s.redriveQueue.Stepped maxReceiveCount (s.move settings maxReceiveCount i)
      (s.step settings maxReceiveCount i).redriveQueue := by
  rw [redriveQueue_step]
  exact Redrive.Queue.stepped _ _ _

/-! ## Whole runs -/

theorem redriveQueue_init : Redriven.redriveQueue ⟨.init, [], []⟩ = {} := rfl

/-- In every run, each message that was sent waits, is on its way back, was deleted or is a dead
letter, and is so once; none was handled more often than the limit, a dead letter exactly as often;
and the receives that got a message are bounded by the messages that were sent. -/
theorem redelivery_limited (settings : Settings) (maxReceiveCount : Nat) (receipts : List Receipt)
    (positive : 0 < maxReceiveCount) :
    let step := Redriven.step settings maxReceiveCount
    let s := Redriven.after settings maxReceiveCount receipts
    let sent := Machine.total step (Redriven.sent settings maxReceiveCount) ⟨.init, [], []⟩ receipts
    s.redriveQueue.messages = sent ∧
      (sent.Nodup → s.redriveQueue.Tallied maxReceiveCount) ∧
      Machine.total step (Redriven.receives settings maxReceiveCount) ⟨.init, [], []⟩ receipts ≤
        (maxReceiveCount + 1) * Multiset.card sent := by
  intro step s sent
  have all : s.redriveQueue.messages = sent := by
    have balance (s : Redriven) (i : Receipt) : (step s i).redriveQueue.messages =
        s.redriveQueue.messages + s.sent settings maxReceiveCount i :=
      (stepped_queue settings maxReceiveCount s i).messages
    exact (Machine.exec_conserves step (fun s : Redriven => s.redriveQueue.messages) balance _
      receipts).trans (zero_add _)
  refine ⟨all, fun distinct => ?_, ?_⟩
  · -- an earlier state has fewer messages, so they are distinct all along the run
    have distinct_back : ∀ (s : Redriven) i, (step s i).redriveQueue.messages.Nodup →
        s.redriveQueue.messages.Nodup := by
      intro s i distinct
      refine Multiset.nodup_of_le ?_ distinct
      rw [(stepped_queue settings maxReceiveCount s i).messages]
      exact Multiset.le_add_right _ _
    obtain ⟨-, along⟩ := Machine.Along.of_final step (P := fun s : Redriven =>
      s.redriveQueue.messages.Nodup) distinct_back (all.symm ▸ distinct)
    have both : s.redriveQueue.Within ∧ s.redriveQueue.Tallied maxReceiveCount := by
      refine Machine.exec_invariant (I := fun s : Redriven =>
        s.redriveQueue.Within ∧ s.redriveQueue.Tallied maxReceiveCount) step
        (fun s i holds distinct => ?_) ?_ along
      · have stepped := stepped_queue settings maxReceiveCount s i
        exact ⟨holds.1.step stepped, holds.2.step positive holds.1 stepped distinct⟩
      · refine ⟨fun _ member => absurd member List.not_mem_nil, ?_⟩
        constructor <;> simp [redriveQueue_init]
    exact both.2
  · have balance (s : Redriven) (i : Receipt) (_ : True) :
        (step s i).redriveQueue.potential maxReceiveCount + s.receives settings maxReceiveCount i ≤
          s.redriveQueue.potential maxReceiveCount +
            (maxReceiveCount + 1) * Multiset.card (s.sent settings maxReceiveCount i) :=
      (stepped_queue settings maxReceiveCount s i).potential positive
    have paid := Machine.exec_pays step
      (fun s : Redriven => s.redriveQueue.potential maxReceiveCount) (I := fun _ => True)
      (fun _ _ _ => trivial) balance (s := ⟨.init, [], []⟩) trivial receipts
    have gains := Machine.map_total step
      ((AddMonoidHom.mulLeft (maxReceiveCount + 1)).comp Multiset.cardHom)
      (Redriven.sent settings maxReceiveCount) ⟨.init, [], []⟩ receipts
    have start : (Redriven.redriveQueue ⟨.init, [], []⟩).potential maxReceiveCount = 0 := rfl
    rw [start, zero_add] at paid
    exact (Nat.le_add_left _ _).trans (paid.trans gains.ge)

def poisoned : List Receipt :=
  let parameters : Dict := Finmap.singleton "listen_port" (.str "http")
  let draws : Draws := ⟨"now", "token"⟩
  [.first (.request (.provision "a" ⟨"s", "p", ∅, parameters⟩ true) 0 "now"),
    .first (.work .provision draws), .again 0 draws, .again 0 draws]

theorem poison_limited :
    (Redriven.after {} 2 poisoned).redriveQueue.handled.count ⟨"a", 0⟩ = 2 :=
  ((redelivery_limited {} 2 poisoned (by decide)).2.1 (by decide)).dead ⟨"a", 0⟩ (by decide)

end Regnant.Osb
