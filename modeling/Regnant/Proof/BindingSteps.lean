import Regnant.Proof.BindingEffects
import Regnant.Proof.Transitions

namespace Regnant.Osb

structure Aws.SameBindings (w w' : Aws) : Prop where
  bindings : w'.bindings = w.bindings
  bindingTasks : w'.bindingTasks = w.bindingTasks

def Call.OnInstances : Call → Prop
  | .putBinding _ _ _ => False
  | .updateBinding _ _ _ => False
  | .deleteBinding _ _ => False
  | .sendMessage .binding _ => False
  | _ => True

def Request.MutatesBinding : Request → Prop
  | .bind _ _ _ => True
  | .unbind _ _ _ _ => True
  | _ => False

variable {settings : Settings} {self receipt : ExecutionName} {now id bid : String}
  {draws : Draws} {queue : QueueName} {w w' : Aws} {payload : Payload} {request : Request}

theorem Aws.SameBindings.perform {c : Call} (on : c.OnInstances) (same : w.SameBindings w') :
    w.SameBindings (perform self c w').2 := by
  obtain ⟨bindings, tasks⟩ := same
  cases c with
  | sendMessage queue payload =>
      cases queue with
      | provision => exact ⟨bindings, tasks⟩
      | binding => exact on.elim
  | putInstance id item =>
      simp only [Osb.perform]
      split <;> exact ⟨bindings, tasks⟩
  | putBinding => exact on.elim
  | updateBinding => exact on.elim
  | deleteBinding => exact on.elim
  | _ => exact ⟨bindings, tasks⟩

theorem Request.Footprint.onInstances {c : Call} (c_in : request.Footprint c)
    (quiet : ¬request.MutatesBinding) : c.OnInstances := by
  cases c_in with
  | bindPut => exact quiet trivial
  | sendBind => exact quiet trivial
  | sendUnbind => exact quiet trivial
  | unbindDelete => exact quiet trivial
  | _ => trivial

theorem answer_sameBindings (quiet : ¬request.MutatesBinding) :
    w.SameBindings (w.answer self now request).2 := by
  rw [answer_snd]
  exact CallTree.run_keeps _ ((calls_app now request).mono fun _ c_in => c_in.onInstances quiet)
    (fun _ _ on same => same.perform on) ⟨rfl, rfl⟩

theorem Payload.Footprint.onInstances {c : Call}
    (c_in : payload.Footprint settings queue receipt c) (task : payload.IsInstanceTask) :
    c.OnInstances := by
  cases task with
  | provision id request => cases c_in <;> simp_all [Payload.provision, Call.OnInstances]
  | update id service plan parameters =>
      cases c_in <;> simp_all [Payload.update, Call.OnInstances]
  | deprovision id => cases c_in <;> simp_all [Payload.deprovision, Call.OnInstances]

theorem handle_sameBindings (task : payload.IsInstanceTask) :
    w.SameBindings (w.handle settings queue draws ⟨receipt, .object payload⟩) :=
  CallTree.run_keeps _ ((calls_handle draws).mono fun _ c_in => c_in.onInstances task)
    (fun _ _ on same => same.perform on) ⟨rfl, rfl⟩

inductive AnsweredBinding (self : ExecutionName) (now : String) (w : Aws) :
    Request → Response → Aws → Prop where
  | created {id bid payload response} (instance' : w.instances id ≠ none)
      (absent : w.bindings (bid, id) = none) (accepted : response.accepted) :
      AnsweredBinding self now w (.bind id bid payload) response
        ((w.withBinding now id bid payload).bindSent self id bid payload)
  | found {id bid payload response} (instance' : w.instances id ≠ none)
      (present : w.bindings (bid, id) ≠ none) (accepted : response.accepted) :
      AnsweredBinding self now w (.bind id bid payload) response w
  | unbound {id bid service plan} (present : w.bindings (bid, id) ≠ none) :
      AnsweredBinding self now w (.unbind id bid service plan) ⟨200, .operation "unbind"⟩
        ((w.unbindSent self id bid).withoutBinding id bid)
  | rejected {request response} (rejected : ¬response.accepted) :
      AnsweredBinding self now w request response w
  | other {request response w'} (quiet : ¬request.MutatesBinding) (same : w.SameBindings w') :
      AnsweredBinding self now w request response w'

theorem AnsweredBinding.rejects {code : Nat} {body : Body} {answer : Response × Aws}
    (same : answer = (⟨code, body⟩, w)) (rejected : ¬(200 ≤ code ∧ code < 300)) :
    AnsweredBinding self now w request answer.1 answer.2 := by
  rw [same]
  exact .rejected rejected

theorem answeredBinding_bind (payload : BindRequest) :
    AnsweredBinding self now w (.bind id bid payload)
      (w.answer self now (.bind id bid payload)).1
      (w.answer self now (.bind id bid payload)).2 := by
  cases row : w.instances id with
  | none => exact .rejects (answer_bind_absent row) (by decide)
  | some item =>
      have present : w.instances id ≠ none := by simp [row]
      cases read : instanceFromItem id item with
      | error e => exact .rejects (answer_bind_unreadable row read) (by decide)
      | ok inst =>
          by_cases bindable : inst.state.bindable
          · cases bound : w.bindings (bid, id) with
            | none =>
                rw [answer_bind_created row read bindable bound]
                exact .created present bound (by simp [Response.accepted])
            | some existing =>
                rw [answer_bind_existing row read bindable bound]
                cases bindingFromItem bid id existing with
                | error e => exact .rejected (by simp [Response.accepted])
                | ok binding =>
                    dsimp only
                    split
                    · exact .found present (by simp [bound]) (by simp [Response.accepted])
                    · exact .rejected (by simp [Response.accepted])
          · exact .rejects (answer_bind_unbindable row read bindable) (by decide)

theorem answeredBinding_unbind (service plan : String) :
    AnsweredBinding self now w (.unbind id bid service plan)
      (w.answer self now (.unbind id bid service plan)).1
      (w.answer self now (.unbind id bid service plan)).2 := by
  cases bound : w.bindings (bid, id) with
  | none => exact .rejects (answer_unbind_absent bound) (by decide)
  | some existing =>
      rw [answer_unbind_existing bound]
      cases bindingFromItem bid id existing with
      | error e => exact .rejected (by simp [Response.accepted])
      | ok binding =>
          dsimp only
          split
          · exact .unbound (by simp [bound])
          · exact .rejected (by simp [Response.accepted])

theorem answeredBinding (self : ExecutionName) (now : String) (w : Aws) (request : Request) :
    AnsweredBinding self now w request (w.answer self now request).1
      (w.answer self now request).2 := by
  cases request with
  | bind id bid payload => exact answeredBinding_bind payload
  | unbind id bid service plan => exact answeredBinding_unbind service plan
  | _ => exact .other not_false (answer_sameBindings not_false)

inductive BindingTransition (settings : Settings) (s : Broker) : Step → Broker → Prop where
  | answered {request : Request} {serial : Nat} {now : String} {response : Response} {w' : Aws}
      (answered : AnsweredBinding ⟨request.instanceId, serial⟩ now s.aws request response w') :
      BindingTransition settings s (.request request serial now)
        ⟨w', s.history ++ [.answered s.aws request response]⟩
  | completed {draws : Draws} {receipt : ExecutionName} {id bid : String} {payload : BindRequest}
      {rest : List Message}
      (head : s.aws.bindingTasks = ⟨receipt, .object (.bind id bid payload)⟩ :: rest) :
      BindingTransition settings s (.work .binding draws)
        ⟨({ s.aws with bindingTasks := rest }.completed id bid
            (bound draws id bid)).acknowledged .binding receipt,
          s.history ++ [.handled s.aws .binding ⟨receipt, .object (.bind id bid payload)⟩]⟩
  | unbindHandled {draws : Draws} {receipt : ExecutionName} {id bid : String} {rest : List Message}
      (head : s.aws.bindingTasks = ⟨receipt, .object (.unbind id bid)⟩ :: rest) :
      BindingTransition settings s (.work .binding draws)
        ⟨{ s.aws with bindingTasks := rest }.acknowledged .binding receipt,
          s.history ++ [.handled s.aws .binding ⟨receipt, .object (.unbind id bid)⟩]⟩
  | instanceHandled {draws : Draws} {message : Message} {w' : Aws} (same : s.aws.SameBindings w') :
      BindingTransition settings s (.work .provision draws)
        ⟨w', s.history ++ [.handled s.aws .provision message]⟩
  | idle {queue : QueueName} {draws : Draws} (empty : s.aws.tasks queue = []) :
      BindingTransition settings s (.work queue draws) s

theorem step_bindingTransition {s : Broker} (sorted : s.aws.Sorted) (i : Step) :
    BindingTransition settings s i (s.step settings i) := by
  cases i with
  | request request serial now => exact .answered (answeredBinding _ now s.aws request)
  | work queue draws =>
      cases queue with
      | provision =>
          cases tasks : s.aws.provisionTasks with
          | nil =>
              simp only [Broker.step, Aws.tasks, tasks]
              exact .idle tasks
          | cons m rest =>
              obtain ⟨payload, body, task⟩ := sorted.provision m (by simp [tasks])
              obtain ⟨receipt, _⟩ := m
              cases body
              simp only [Broker.step, Aws.tasks, tasks, Aws.setTasks]
              have same : ({ s.aws with provisionTasks := rest } : Aws).SameBindings
                  (Aws.handle settings { s.aws with provisionTasks := rest } .provision draws
                    ⟨receipt, .object payload⟩) := handle_sameBindings task
              exact .instanceHandled ⟨same.bindings, same.bindingTasks⟩
      | binding =>
          cases tasks : s.aws.bindingTasks with
          | nil =>
              simp only [Broker.step, Aws.tasks, tasks]
              exact .idle tasks
          | cons m rest =>
              obtain ⟨payload, body, task⟩ := sorted.binding m (by simp [tasks])
              obtain ⟨receipt, _⟩ := m
              cases body
              simp only [Broker.step, Aws.tasks, tasks, Aws.setTasks]
              cases task with
              | bind id bid payload =>
                  rw [handle_bind]
                  exact .completed tasks
              | unbind id bid =>
                  rw [handle_unbind]
                  exact .unbindHandled tasks

end Regnant.Osb
