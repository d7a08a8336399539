import Regnant.Lib.Contract
import Regnant.Proof.Calls
import Regnant.Proof.Threads

namespace Regnant.Osb
open CallTree

structure Terms where
  contract : Contract Call Call.Result Exn
  stores : Aws → Prop
  message : MessageBody → Prop
  answer : Request → Response → Prop

variable {terms : Terms} {settings : Settings} {s s' : System} {name : ThreadName}
  {thread : Thread} {outcome : Outcome} {w : Aws}

structure Terms.Hold (terms : Terms) (settings : Settings) (allowed : Action → Prop) : Prop where
  performs : ∀ self c w, terms.contract.allows c → terms.stores w →
    terms.stores (perform self c w).2
  takes : ∀ w queue messages, terms.stores w → terms.stores (w.setTasks queue messages)
  sends : ∀ queue payload, terms.contract.allows (.sendMessage queue payload) →
    terms.message (.object payload)
  replies : ∀ self c w, terms.stores w → terms.contract.promises c (perform self c w).1
  fails : ∀ c, terms.contract.promises c (.error .clientError)
  routes : ∀ request serial now, allowed (.start request serial now) →
    (app now request).Meets terms.contract (terms.answer request)
  raised : ∀ request, terms.answer request ⟨500, .serverError⟩
  handles : ∀ queue receipt delivery draws message,
    allowed (.receive queue receipt delivery draws) ∨
      allowed (.again queue receipt delivery draws) →
    terms.message message.body →
    (Worker.handle settings queue draws message).Meets terms.contract fun _ => True

def Terms.Waiting (terms : Terms) (w : Aws) : Prop :=
  ∀ queue, ∀ message ∈ w.tasks queue, terms.message message.body

def Thread.Under (terms : Terms) : Thread → Prop
  | .request asked rest => rest.Meets terms.contract (terms.answer asked)
  | .handling _ rest => rest.Meets terms.contract fun _ => True

structure System.Under (terms : Terms) (s : System) : Prop where
  stores : terms.stores s.aws
  waiting : terms.Waiting s.aws
  received : ∀ r ∈ s.received, terms.message r.2.body
  threads : ∀ name thread, s.threads.lookup name = some thread → thread.Under terms
  answers : ∀ answer ∈ s.answers, terms.answer answer.request answer.response

theorem Terms.Waiting.erase (waiting : terms.Waiting w) (queue : QueueName)
    (received : Message → Bool) :
    terms.Waiting (w.setTasks queue ((w.tasks queue).eraseP received)) := by
  intro queue' message member
  cases queue with
  | provision =>
      cases queue' with
      | provision => exact waiting .provision message (List.mem_of_mem_eraseP member)
      | binding => exact waiting .binding message member
  | binding =>
      cases queue' with
      | provision => exact waiting .provision message member
      | binding => exact waiting .binding message (List.mem_of_mem_eraseP member)

theorem meets_respond {contract : Contract Call Call.Result Exn} {Q : Body → Prop}
    {Q' : Response → Prop} {status : Nat} {route : Handler Body} (meets : route.Meets contract Q)
    (answered : ∀ body, Q body → Q' ⟨status, body⟩)
    (rejected : ∀ e : OsbError, Q' ⟨e.kind.statusCode, .error e.kind.errorCode e.message⟩)
    (raised : Q' ⟨500, .serverError⟩) : (respond status route).Meets contract Q' := by
  refine meets.attempt.bind fun x here => ?_
  cases x with
  | ok body => exact answered body (here body rfl)
  | error e =>
      cases e with
      | osb e => exact rejected e
      | _ => exact raised

/-! ## One call -/

section
variable {allowed : Action → Prop} (hold : terms.Hold settings allowed)
include hold

theorem Terms.Hold.perform_stores {self : ExecutionName} {c : Call}
    (allows : terms.contract.allows c) (stores : terms.stores w) :
    terms.stores (outcome.perform self c w).2 := by
  cases outcome with
  | ok => exact hold.performs self c w allows stores
  | fails effect =>
      cases effect with
      | true => exact hold.performs self c w allows stores
      | false => exact stores

theorem Terms.Hold.perform_promises {self : ExecutionName} {c : Call} (stores : terms.stores w) :
    terms.contract.promises c (outcome.perform self c w).1 := by
  cases outcome with
  | ok => exact hold.replies self c w stores
  | fails effect => cases effect <;> exact hold.fails c

theorem Terms.Hold.perform_waiting {self : ExecutionName} {c : Call}
    (allows : terms.contract.allows c) (waiting : terms.Waiting w) :
    terms.Waiting (outcome.perform self c w).2 := by
  have performed : terms.Waiting (perform self c w).2 := by
    intro queue message member
    rw [perform_tasks] at member
    rcases List.mem_append.mp member with before | sent
    · exact waiting queue message before
    · cases c with
      | sendMessage queue' payload =>
          simp only [Call.sent] at sent
          split at sent
          · cases List.mem_singleton.mp sent
            exact hold.sends queue' payload allows
          · cases sent
      | _ => cases sent
  cases outcome with
  | ok => exact performed
  | fails effect =>
      cases effect with
      | true => exact performed
      | false => exact waiting

theorem Thread.Under.advance (under : thread.Under terms) (self : ExecutionName)
    (stores : terms.stores w) : (thread.advance outcome self w).1.Under terms := by
  have kept (c : Call) (_ : terms.contract.allows c) :
      terms.contract.promises c (outcome.perform self c w).1 := hold.perform_promises stores
  cases thread with
  | request asked rest => exact Meets.advance under kept
  | handling message rest => exact Meets.advance under kept

theorem Thread.Under.advance_stores (under : thread.Under terms) (self : ExecutionName)
    (stores : terms.stores w) : terms.stores (thread.advance outcome self w).2 := by
  have keeps (c : Call) (w : Aws) (allows : terms.contract.allows c) (stores : terms.stores w) :
      terms.stores (outcome.perform self c w).2 := hold.perform_stores allows stores
  cases thread with
  | request asked rest => exact Meets.advance_keeps under keeps stores
  | handling message rest => exact Meets.advance_keeps under keeps stores

theorem Thread.Under.advance_waiting (under : thread.Under terms) (self : ExecutionName)
    (waiting : terms.Waiting w) : terms.Waiting (thread.advance outcome self w).2 := by
  have keeps (c : Call) (w : Aws) (allows : terms.contract.allows c) (waiting : terms.Waiting w) :
      terms.Waiting (outcome.perform self c w).2 := hold.perform_waiting allows waiting
  cases thread with
  | request asked rest => exact Meets.advance_keeps under keeps waiting
  | handling message rest => exact Meets.advance_keeps under keeps waiting

theorem Thread.Under.answered (under : thread.Under terms) {answer : Answer}
    (ended : thread.ended.join = some answer) : terms.answer answer.request answer.response := by
  cases thread with
  | request asked rest =>
      cases rest with
      | ret response =>
          cases ended
          exact under
      | raise e =>
          cases ended
          exact hold.raised asked
      | call c k => cases ended
  | handling message rest => cases rest <;> cases ended

theorem System.Under.resume (under : s.Under terms) (kept : thread.Under terms) :
    (s.resume name thread).Under terms := by
  have goes : s.Goes name thread (s.resume name thread) := System.goes_resume rfl rfl
  have aws := System.resume_aws s name thread
  have received : (s.resume name thread).received = s.received := by
    unfold System.resume
    split <;> rfl
  refine ⟨aws ▸ under.stores, aws ▸ under.waiting, received ▸ under.received,
    fun name' thread' looked => ?_, fun answer member => ?_⟩
  · by_cases own : name' = name
    · rw [own, goes.own] at looked
      split at looked
      · exact Option.some.inj looked ▸ kept
      · cases looked
    · exact under.threads name' thread' ((goes.others name' own).symm.trans looked)
  · rw [goes.answers] at member
    rcases List.mem_append.mp member with own | before
    · exact kept.answered hold (Option.mem_toList.mp own)
    · exact under.answers answer before

theorem System.Under.take (under : s.Under terms) {queue : QueueName} {receipt : ExecutionName}
    {delivery : Nat} {draws : Draws} {message : Message}
    (permitted : allowed (.receive queue receipt delivery draws) ∨
      allowed (.again queue receipt delivery draws))
    (said : terms.message message.body) :
    (s.take settings queue delivery draws message).Under terms := by
  have received : ({ s with received := (queue, message) :: s.received } : System).Under terms :=
    ⟨under.stores, under.waiting, List.forall_mem_cons.mpr ⟨said, under.received⟩, under.threads,
      under.answers⟩
  have handling : (Thread.handling message (Worker.handle settings queue draws message)).Under
      terms := hold.handles queue receipt delivery draws message permitted said
  exact received.resume hold handling

theorem System.Under.step (under : s.Under terms) {i : Action} (permitted : allowed i) :
    (s.step settings i).Under terms := by
  cases i with
  | start request serial now =>
      simp only [System.step]
      split
      · exact under
      · have asked : (Thread.request request (app now request)).Under terms :=
          hold.routes request serial now permitted
        exact under.resume hold asked
  | receive queue receipt delivery draws =>
      simp only [System.step]
      split
      · exact under
      · split
        · exact under
        next message found =>
          have said := under.waiting queue message (List.mem_of_find?_eq_some found)
          have taken : ({ s with aws := s.aws.setTasks queue ((s.aws.tasks queue).eraseP
              (·.receiptHandle = receipt)) } : System).Under terms :=
            ⟨hold.takes s.aws queue _ under.stores, under.waiting.erase queue _,
              under.received, under.threads, under.answers⟩
          exact taken.take hold (.inl permitted) said
  | again queue receipt delivery draws =>
      simp only [System.step]
      split
      · exact under
      · split
        · exact under
        next message found =>
          exact under.take hold (.inr permitted)
            (under.received _ (List.mem_of_find?_eq_some found))
  | call name outcome =>
      simp only [System.step]
      split
      · exact under
      next thread looked =>
        have before := under.threads name thread looked
        have called : ({ s with aws := (thread.advance outcome name.self s.aws).2 } :
            System).Under terms :=
          ⟨before.advance_stores hold name.self under.stores,
            before.advance_waiting hold name.self under.waiting, under.received, under.threads,
            under.answers⟩
        exact called.resume hold (before.advance hold name.self under.stores)

/-! ## Runs -/

theorem run_under (stores : terms.stores w) (waiting : terms.Waiting w) {actions : List Action}
    (permitted : ∀ i ∈ actions, allowed i) :
    (System.after settings w actions).Under terms := by
  have start : System.Under terms ⟨w, ∅, [], []⟩ := by
    refine ⟨stores, waiting, fun _ member => ?_, fun name thread looked => ?_, fun _ member => ?_⟩
    · cases member
    · cases looked
    · cases member
  exact Machine.exec_invariant (System.step settings)
    (fun _ _ under permitted => under.step hold permitted) start
    ((Machine.along_forall (System.step settings)).mpr permitted)

end

end Regnant.Osb
