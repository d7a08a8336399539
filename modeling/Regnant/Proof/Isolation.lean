import Regnant.Lib.Restriction
import Regnant.Osb.Interleaving
import Regnant.Proof.Calls
import Regnant.Proof.Footprint

namespace Regnant.Osb
open Function (update)
open Restriction

def Call.Concerns (settings : Settings) (id : String) : Call → Prop
  | .getInstance id' => id' = id
  | .putInstance id' _ => id' = id
  | .updateInstance id' _ => id' = id
  | .deleteInstance id' => id' = id
  | .getBinding _ id' => id' = id
  | .putBinding _ id' _ => id' = id
  | .updateBinding _ id' _ => id' = id
  | .deleteBinding _ id' => id' = id
  | .putObject key _ => key = settings.artifactKey id
  | .deleteObject key => key = settings.artifactKey id
  | .sendMessage _ payload => payload.instanceId = some id
  | .deleteMessage _ receiptHandle => receiptHandle.subject = id

variable {settings : Settings} {id id' : String} {self receipt : ExecutionName} {c : Call}
  {w : Aws} {request : Request} {payload : Payload} {queue : QueueName} {outcome : Outcome}

theorem Call.Concerns.unique (concerns : c.Concerns settings id)
    (concerns' : c.Concerns settings id') : id = id' := by
  cases c with
  | putObject key document => exact settings.artifactKey_injective (concerns.symm.trans concerns')
  | deleteObject key => exact settings.artifactKey_injective (concerns.symm.trans concerns')
  | sendMessage queue payload => exact Option.some.inj (concerns.symm.trans concerns')
  | _ => exact concerns.symm.trans concerns'

theorem Request.Footprint.concerns (c_in : request.Footprint c) :
    c.Concerns settings request.instanceId := by
  cases c_in <;> rfl

theorem Payload.Footprint.concerns (c_in : payload.Footprint settings queue receipt c)
    (about : payload.instanceId = some receipt.subject) : c.Concerns settings receipt.subject := by
  have same {id : String} (member : payload.instanceId = some id) : id = receipt.subject :=
    Option.some.inj (member.symm.trans about)
  cases c_in with
  | getInstance _ member => exact same member
  | putObject _ member => exact congrArg settings.artifactKey (same member)
  | updateInstance _ member => exact same member
  | deleteObject _ member => exact congrArg settings.artifactKey (same member)
  | deleteInstance _ member => exact same member
  | updateBinding _ member => exact same member
  | deleteMessage => rfl

/-! ## The part of one instance -/

def Aws.only (settings : Settings) (id : String) (w : Aws) : Aws where
  instances := restrict (· = id) w.instances
  bindings := restrict (·.2 = id) w.bindings
  bucket := restrict (· = settings.artifactKey id) w.bucket
  provisionTasks := w.provisionTasks.filter (·.receiptHandle.subject = id)
  bindingTasks := w.bindingTasks.filter (·.receiptHandle.subject = id)
  deleted := w.deleted.filter (·.2.subject = id)

theorem Aws.only_tasks : (w.only settings id).tasks queue =
    (w.tasks queue).filter (·.receiptHandle.subject = id) := by
  cases queue <;> rfl

theorem Aws.only_setTasks (messages : List Message) :
    (w.setTasks queue messages).only settings id =
      (w.only settings id).setTasks queue (messages.filter (·.receiptHandle.subject = id)) := by
  cases queue <;> rfl

theorem Aws.setTasks_tasks (w : Aws) (queue : QueueName) :
    w.setTasks queue (w.tasks queue) = w := by
  cases queue <;> rfl

theorem perform_only (concerns : c.Concerns settings id) (own : self.subject = id) :
    perform self c (w.only settings id) =
      ((perform self c w).1, (perform self c w).2.only settings id) := by
  cases c with
  | getInstance id' =>
      obtain rfl : id' = id := concerns
      simp [perform, Aws.only, restrict_apply]
  | putInstance id' item =>
      obtain rfl : id' = id := concerns
      simp only [perform, Aws.only, restrict_apply]
      cases w.instances id' with
      | none => simp [restrict_update]
      | some item' => rfl
  | updateInstance id' u =>
      obtain rfl : id' = id := concerns
      simp [perform, Aws.only, restrict_apply, restrict_update]
  | deleteInstance id' =>
      obtain rfl : id' = id := concerns
      simp [perform, Aws.only, restrict_update]
  | getBinding bid id' =>
      obtain rfl : id' = id := concerns
      simp [perform, Aws.only, restrict_apply]
  | putBinding bid id' item =>
      obtain rfl : id' = id := concerns
      have row : restrict (·.2 = id') w.bindings (bid, id') = w.bindings (bid, id') :=
        restrict_apply (p := fun key : String × String => key.2 = id') rfl _
      simp only [perform, Aws.only, row]
      cases w.bindings (bid, id') with
      | none => simp [restrict_update]
      | some item' => rfl
  | updateBinding bid id' u =>
      obtain rfl : id' = id := concerns
      simp [perform, Aws.only, restrict_apply, restrict_update]
  | deleteBinding bid id' =>
      obtain rfl : id' = id := concerns
      simp [perform, Aws.only, restrict_update]
  | putObject key body =>
      obtain rfl : key = settings.artifactKey id := concerns
      simp [perform, Aws.only, restrict_update]
  | deleteObject key =>
      obtain rfl : key = settings.artifactKey id := concerns
      simp [perform, Aws.only, restrict_update]
  | sendMessage queue payload => cases queue <;> simp [perform, Aws.only, own]
  | deleteMessage queue receipt =>
      have kept : receipt.subject = id := concerns
      simp [perform, Aws.only, kept]

theorem perform_only_other (concerns : c.Concerns settings id') (own : self.subject = id')
    (other : id' ≠ id) : (perform self c w).2.only settings id = w.only settings id := by
  have key : settings.artifactKey id' ≠ settings.artifactKey id :=
    settings.artifactKey_injective.ne other
  cases c with
  | getInstance => rfl
  | putInstance id'' item =>
      obtain rfl : id'' = id' := concerns
      simp only [perform]
      cases w.instances id'' with
      | none => simp [Aws.only, restrict_update_other, other]
      | some item' => rfl
  | updateInstance id'' u =>
      obtain rfl : id'' = id' := concerns
      simp [perform, Aws.only, restrict_update_other, other]
  | deleteInstance id'' =>
      obtain rfl : id'' = id' := concerns
      simp [perform, Aws.only, restrict_update_other, other]
  | getBinding => rfl
  | putBinding bid id'' item =>
      obtain rfl : id'' = id' := concerns
      simp only [perform]
      cases w.bindings (bid, id'') with
      | none => simp [Aws.only, restrict_update_other, other]
      | some item' => rfl
  | updateBinding bid id'' u =>
      obtain rfl : id'' = id' := concerns
      simp [perform, Aws.only, restrict_update_other, other]
  | deleteBinding bid id'' =>
      obtain rfl : id'' = id' := concerns
      simp [perform, Aws.only, restrict_update_other, other]
  | putObject key' body =>
      obtain rfl : key' = settings.artifactKey id' := concerns
      simp [perform, Aws.only, restrict_update_other, key]
  | deleteObject key' =>
      obtain rfl : key' = settings.artifactKey id' := concerns
      simp [perform, Aws.only, restrict_update_other, key]
  | sendMessage queue payload => cases queue <;> simp [perform, Aws.only, own, other]
  | deleteMessage queue receipt =>
      have dropped : receipt.subject = id' := concerns
      simp [perform, Aws.only, dropped, other]

def Thread.Concerns (settings : Settings) (id : String) : Thread → Prop
  | .request asked rest => asked.instanceId = id ∧ rest.Calls (Call.Concerns settings id)
  | .handling _ rest => rest.Calls (Call.Concerns settings id)

theorem Outcome.perform_only (concerns : c.Concerns settings id) (own : self.subject = id) :
    outcome.perform self c (w.only settings id) =
      ((outcome.perform self c w).1, (outcome.perform self c w).2.only settings id) := by
  have same := Osb.perform_only (w := w) concerns own
  cases outcome with
  | ok => exact same
  | fails effect =>
      cases effect with
      | true => simp [Outcome.perform, same]
      | false => rfl

theorem Outcome.perform_only_other (concerns : c.Concerns settings id') (own : self.subject = id')
    (other : id' ≠ id) : (outcome.perform self c w).2.only settings id = w.only settings id := by
  have same := Osb.perform_only_other (w := w) concerns own other
  cases outcome with
  | ok => exact same
  | fails effect =>
      cases effect with
      | true => exact same
      | false => rfl

section Program
variable {α : Type} {rest : Handler α}

theorem advance_only (calls : rest.Calls (Call.Concerns settings id)) (own : self.subject = id) :
    rest.advance (outcome.perform self) (w.only settings id) =
      ((rest.advance (outcome.perform self) w).1,
        (rest.advance (outcome.perform self) w).2.only settings id) := by
  cases rest with
  | ret a => rfl
  | raise e => rfl
  | call c k => simp only [CallTree.advance, Outcome.perform_only calls.1 own]

theorem advance_only_other (calls : rest.Calls (Call.Concerns settings id'))
    (own : self.subject = id') (other : id' ≠ id) :
    (rest.advance (outcome.perform self) w).2.only settings id = w.only settings id := by
  cases rest with
  | ret a => rfl
  | raise e => rfl
  | call c k => exact Outcome.perform_only_other calls.1 own other

end Program

variable {thread : Thread}

theorem Thread.advance_only (concerns : thread.Concerns settings id) (own : self.subject = id)
    (outcome : Outcome) (w : Aws) :
    thread.advance outcome self (w.only settings id) =
      ((thread.advance outcome self w).1, (thread.advance outcome self w).2.only settings id) := by
  cases thread with
  | request asked rest => simp only [Thread.advance, Osb.advance_only concerns.2 own]
  | handling message rest => simp only [Thread.advance, Osb.advance_only concerns own]

theorem Thread.advance_only_other (concerns : thread.Concerns settings id')
    (own : self.subject = id') (other : id' ≠ id) :
    (thread.advance outcome self w).2.only settings id = w.only settings id := by
  cases thread with
  | request asked rest => exact Osb.advance_only_other concerns.2 own other
  | handling message rest => exact Osb.advance_only_other concerns own other

theorem Thread.Concerns.advance (concerns : thread.Concerns settings id) :
    (thread.advance outcome self w).1.Concerns settings id := by
  cases thread with
  | request asked rest => exact ⟨concerns.1, concerns.2.advance _ _⟩
  | handling message rest => exact CallTree.Every.advance _ concerns _

theorem Thread.Concerns.next (concerns : thread.Concerns settings id)
    (next : thread.next = some c) : c.Concerns settings id := by
  cases thread with
  | request asked rest => exact CallTree.Calls.next concerns.2 next
  | handling message rest =>
      exact CallTree.Calls.next (P := Call.Concerns settings id) concerns next

theorem Thread.Concerns.start (now : String) (request : Request) :
    (Thread.request request (app now request)).Concerns settings request.instanceId :=
  ⟨rfl, (calls_app now request).mono fun _ c_in => c_in.concerns⟩

theorem Thread.Concerns.answer {answer : Answer} (concerns : thread.Concerns settings id)
    (ended : thread.ended = some (some answer)) : answer.request.instanceId = id := by
  cases thread with
  | request asked rest =>
      cases rest <;> simp only [Thread.ended, Option.some.injEq, reduceCtorEq] at ended
      all_goals exact ended ▸ concerns.1
  | handling message rest => cases rest <;> simp [Thread.ended] at ended

def Message.Attributed (m : Message) : Prop :=
  ∃ payload, m.body = .object payload ∧ payload.instanceId = some m.receiptHandle.subject

theorem Thread.Concerns.handle {message : Message} (attributed : message.Attributed)
    (draws : Draws) :
    (Thread.handling message (Worker.handle settings queue draws message)).Concerns settings
      message.receiptHandle.subject := by
  obtain ⟨receipt, body⟩ := message
  obtain ⟨payload, rfl, about⟩ := attributed
  exact (calls_handle draws).mono fun _ c_in => c_in.concerns about

def Aws.Attributed (w : Aws) : Prop :=
  ∀ queue, ∀ m ∈ w.tasks queue, m.Attributed

theorem Call.Concerns.sent (concerns : c.Concerns settings self.subject) {m : Message}
    (member : m ∈ c.sent self queue) : m.Attributed := by
  cases c with
  | sendMessage queue' payload =>
      simp only [Call.sent] at member
      split at member
      · obtain rfl := List.mem_singleton.mp member
        exact ⟨payload, rfl, concerns⟩
      · exact (List.not_mem_nil member).elim
  | _ => exact (List.not_mem_nil member).elim

theorem Aws.Attributed.perform (attributed : w.Attributed)
    (concerns : c.Concerns settings self.subject) :
    (outcome.perform self c w).2.Attributed := by
  have ok : (Osb.perform self c w).2.Attributed := by
    intro queue m member
    rw [perform_tasks] at member
    rcases List.mem_append.mp member with member | member
    · exact attributed queue m member
    · exact concerns.sent member
  cases outcome with
  | ok => exact ok
  | fails effect =>
      cases effect with
      | true => exact ok
      | false => exact attributed

theorem Aws.Attributed.advance (attributed : w.Attributed)
    (concerns : thread.Concerns settings self.subject) :
    (thread.advance outcome self w).2.Attributed := by
  cases thread with
  | request asked rest =>
      exact CallTree.advance_keeps _ concerns.2
        (fun _ _ concerns attributed => attributed.perform concerns) attributed
  | handling message rest =>
      exact CallTree.advance_keeps (P := Call.Concerns settings self.subject) _ concerns
        (fun _ _ concerns attributed => attributed.perform concerns) attributed

/-! ## Every thread and every message is about its own instance -/

structure System.Attributed (settings : Settings) (s : System) : Prop where
  threads : ∀ name thread, s.threads.lookup name = some thread →
    thread.Concerns settings name.subject
  tasks : s.aws.Attributed
  received : ∀ r ∈ s.received, r.2.Attributed

variable {s t : System} {name : ThreadName}

theorem System.Attributed.resume (attributed : s.Attributed settings)
    (concerns : thread.Concerns settings name.subject) :
    (s.resume name thread).Attributed settings := by
  obtain ⟨threads, tasks, received⟩ := attributed
  unfold System.resume
  split
  · refine ⟨fun name' thread' looked => threads name' thread' ?_, tasks, received⟩
    by_cases same : name' = name
    · subst same
      simp at looked
    · rwa [Finmap.lookup_erase_ne same] at looked
  · refine ⟨fun name' thread' looked => ?_, tasks, received⟩
    by_cases same : name' = name
    · subst same
      rw [Finmap.lookup_insert] at looked
      exact Option.some.inj looked ▸ concerns
    · rw [Finmap.lookup_insert_of_ne _ same] at looked
      exact threads name' thread' looked

theorem System.Attributed.take (attributed : s.Attributed settings) {message : Message}
    (own : message.Attributed) (delivery : Nat) (draws : Draws) :
    (s.take settings queue delivery draws message).Attributed settings := by
  refine System.Attributed.resume ⟨attributed.threads, attributed.tasks, ?_⟩ (.handle own draws)
  exact List.forall_mem_cons.mpr ⟨own, attributed.received⟩

theorem Aws.Attributed.setTasks (attributed : w.Attributed) {messages : List Message}
    (sub : messages ⊆ w.tasks queue) : (w.setTasks queue messages).Attributed := by
  intro queue' m member
  cases queue <;> cases queue'
  · exact attributed .provision m (sub member)
  · exact attributed .binding m member
  · exact attributed .provision m member
  · exact attributed .binding m (sub member)

theorem System.Attributed.step (attributed : s.Attributed settings) (i : Action) :
    (s.step settings i).Attributed settings := by
  cases i with
  | start request serial now =>
      simp only [System.step]
      split
      · exact attributed
      · exact attributed.resume (.start now request)
  | receive queue receipt delivery draws =>
      simp only [System.step]
      split
      · exact attributed
      · split
        next => exact attributed
        next message found =>
          have own := attributed.tasks queue message (List.mem_of_find?_eq_some found)
          have taken : System.Attributed settings { s with
              aws := s.aws.setTasks queue
                ((s.aws.tasks queue).eraseP (·.receiptHandle = receipt)) } :=
            ⟨attributed.threads, attributed.tasks.setTasks List.eraseP_subset,
              attributed.received⟩
          exact taken.take own _ _
  | again queue receipt delivery draws =>
      simp only [System.step]
      split
      · exact attributed
      · split
        next => exact attributed
        next queue' message found =>
          exact attributed.take (attributed.received _ (List.mem_of_find?_eq_some found)) _ _
  | call name outcome =>
      simp only [System.step]
      split
      next => exact attributed
      next thread looked =>
        have concerns := attributed.threads name thread looked
        refine System.Attributed.resume ⟨attributed.threads, ?_, attributed.received⟩
          concerns.advance
        exact attributed.tasks.advance concerns

theorem System.Attributed.init (settings : Settings)
    (unsent : w.provisionTasks = [] ∧ w.bindingTasks = []) :
    System.Attributed settings ⟨w, ∅, [], []⟩ := by
  refine ⟨fun name thread looked => by simp at looked, fun queue m member => ?_, by simp⟩
  cases queue <;> simp [Aws.tasks, unsent] at member

/-! ## Two runs -/

structure System.Alike (settings : Settings) (id : String) (s t : System) : Prop where
  aws : s.aws.only settings id = t.aws.only settings id
  threads : ∀ name : ThreadName, name.subject = id → s.threads.lookup name = t.threads.lookup name
  received : s.received.filter (·.2.receiptHandle.subject = id) =
    t.received.filter (·.2.receiptHandle.subject = id)
  answers : s.answers.filter (·.request.instanceId = id) =
    t.answers.filter (·.request.instanceId = id)

theorem System.Alike.resume (alike : s.Alike settings id t) :
    (s.resume name thread).Alike settings id (t.resume name thread) := by
  obtain ⟨aws, threads, received, answers⟩ := alike
  unfold System.resume
  cases thread.ended with
  | some answer =>
      refine ⟨aws, fun name' own => ?_, received, ?_⟩
      · by_cases same : name' = name
        · subst same
          simp
        · simpa only [Finmap.lookup_erase_ne same] using threads name' own
      · simp only [List.filter_append, answers]
  | none =>
      refine ⟨aws, fun name' own => ?_, received, answers⟩
      by_cases same : name' = name
      · subst same
        simp
      · simpa only [Finmap.lookup_insert_of_ne _ same] using threads name' own

theorem System.Alike.resume_other (alike : s.Alike settings id t)
    (concerns : thread.Concerns settings id') (own : name.subject = id') (other : id' ≠ id) :
    (s.resume name thread).Alike settings id t := by
  obtain ⟨aws, threads, received, answers⟩ := alike
  have unseen {name' : ThreadName} (seen : name'.subject = id) : name' ≠ name := by
    rintro rfl
    exact other (own.symm.trans seen)
  unfold System.resume
  cases ended : thread.ended with
  | some answer =>
      refine ⟨aws, fun name' seen => ?_, received, ?_⟩
      · rw [Finmap.lookup_erase_ne (unseen seen)]
        exact threads name' seen
      · have quiet : answer.toList.filter (·.request.instanceId = id) = [] := by
          cases answer with
          | none => rfl
          | some answer => simp [concerns.answer ended, other]
        rw [List.filter_append, quiet, List.nil_append, answers]
  | none =>
      refine ⟨aws, fun name' seen => ?_, received, answers⟩
      rw [Finmap.lookup_insert_of_ne _ (unseen seen)]
      exact threads name' seen

theorem System.Alike.tasks (alike : s.Alike settings id t) (queue : QueueName) :
    (s.aws.tasks queue).filter (·.receiptHandle.subject = id) =
      (t.aws.tasks queue).filter (·.receiptHandle.subject = id) := by
  simpa only [Aws.only_tasks] using congrArg (Aws.tasks · queue) alike.aws

theorem System.Alike.take (alike : s.Alike settings id t) (queue : QueueName) (delivery : Nat)
    (draws : Draws) {message : Message} (own : message.receiptHandle.subject = id) :
    (s.take settings queue delivery draws message).Alike settings id
      (t.take settings queue delivery draws message) := by
  refine System.Alike.resume ⟨alike.aws, alike.threads, ?_, alike.answers⟩
  simp [own, alike.received]

theorem System.Alike.take_other (alike : s.Alike settings id t) {message : Message}
    (attributed : message.Attributed) (other : message.receiptHandle.subject ≠ id)
    (queue : QueueName) (delivery : Nat) (draws : Draws) :
    (s.take settings queue delivery draws message).Alike settings id t := by
  refine System.Alike.resume_other ⟨alike.aws, alike.threads, ?_, alike.answers⟩
    (.handle attributed draws) rfl other
  simp [other, alike.received]

theorem System.Alike.busy (alike : s.Alike settings id t) (name : ThreadName)
    (own : name.subject = id) :
    name ∈ s.threads ↔ name ∈ t.threads := by
  rw [Finmap.mem_iff, Finmap.mem_iff, alike.threads name own]

theorem System.Alike.waiting (alike : s.Alike settings id t) (own : receipt.subject = id)
    (queue : QueueName) :
    (s.aws.tasks queue).find? (·.receiptHandle = receipt) =
      (t.aws.tasks queue).find? (·.receiptHandle = receipt) := by
  have kept (m : Message) (found : decide (m.receiptHandle = receipt) = true) :
      decide (m.receiptHandle.subject = id) = true := by
    simp_all
  rw [← find_filter kept, alike.tasks, find_filter kept]

theorem System.Alike.delivered (alike : s.Alike settings id t) (own : receipt.subject = id)
    (queue : QueueName) :
    s.received.find? (fun r => r.1 = queue ∧ r.2.receiptHandle = receipt) =
      t.received.find? fun r => r.1 = queue ∧ r.2.receiptHandle = receipt := by
  have kept (r : QueueName × Message)
      (found : decide (r.1 = queue ∧ r.2.receiptHandle = receipt) = true) :
      decide (r.2.receiptHandle.subject = id) = true := by
    simp_all
  rw [← find_filter kept, alike.received, find_filter kept]

theorem System.Alike.receive (alike : s.Alike settings id t) (own : receipt.subject = id)
    (queue : QueueName) :
    let erased (w : Aws) := w.setTasks queue ((w.tasks queue).eraseP (·.receiptHandle = receipt))
    System.Alike settings id { s with aws := erased s.aws } { t with aws := erased t.aws } := by
  intro erased
  refine ⟨?_, alike.threads, alike.received, alike.answers⟩
  have kept (m : Message) (found : decide (m.receiptHandle = receipt) = true) :
      decide (m.receiptHandle.subject = id) = true := by
    simp_all
  simp only [erased, Aws.only_setTasks, alike.aws, filter_eraseP kept, alike.tasks]

theorem System.Alike.step (alike : s.Alike settings id t) (sa : s.Attributed settings) (i : Action)
    (seen : i.subject = id) : (s.step settings i).Alike settings id (t.step settings i) := by
  cases i with
  | start request serial now =>
      have busy := alike.busy (.request ⟨request.instanceId, serial⟩) seen
      simp only [System.step, busy]
      split
      · exact alike
      · exact alike.resume
  | receive queue receipt delivery draws =>
      have busy := alike.busy (.handling receipt delivery) seen
      simp only [System.step, busy, alike.waiting seen queue]
      split
      · exact alike
      · split
        next => exact alike
        next message found =>
          have handle : message.receiptHandle = receipt := by simpa using List.find?_some found
          exact (alike.receive seen queue).take queue delivery draws (handle ▸ seen)
  | again queue receipt delivery draws =>
      have busy := alike.busy (.handling receipt delivery) seen
      simp only [System.step, busy, alike.delivered seen queue]
      split
      · exact alike
      · split
        next => exact alike
        next queue' message found =>
          obtain ⟨-, handle⟩ : queue' = queue ∧ message.receiptHandle = receipt := by
            simpa using List.find?_some found
          exact alike.take queue delivery draws (handle ▸ seen)
  | call name outcome =>
      simp only [System.step, ← alike.threads name seen]
      cases looked : s.threads.lookup name with
      | none => exact alike
      | some thread =>
          have own : name.subject = id := seen
          have concerns := sa.threads name thread looked
          rw [own] at concerns
          have left := Thread.advance_only concerns own outcome s.aws
          have right := Thread.advance_only concerns own outcome t.aws
          rw [alike.aws, right] at left
          obtain ⟨program, aws⟩ := Prod.mk.inj left
          dsimp only
          rw [← program]
          exact System.Alike.resume ⟨aws.symm, alike.threads, alike.received, alike.answers⟩

theorem System.Alike.step_other (alike : s.Alike settings id t) (sa : s.Attributed settings)
    (i : Action) (unseen : i.subject ≠ id) : (s.step settings i).Alike settings id t := by
  cases i with
  | start request serial now =>
      simp only [System.step]
      split
      · exact alike
      · exact alike.resume_other (.start now request) rfl unseen
  | receive queue receipt delivery draws =>
      simp only [System.step]
      split
      · exact alike
      · split
        next => exact alike
        next message found =>
          have handle : message.receiptHandle = receipt := by simpa using List.find?_some found
          have dropped (m : Message) (found : decide (m.receiptHandle = receipt) = true) :
              decide (m.receiptHandle.subject = id) = false := by
            have elsewhere : receipt.subject ≠ id := unseen
            simp_all
          have erased : System.Alike settings id { s with
              aws := s.aws.setTasks queue
                ((s.aws.tasks queue).eraseP (·.receiptHandle = receipt)) } t := by
            refine ⟨?_, alike.threads, alike.received, alike.answers⟩
            rw [Aws.only_setTasks, filter_eraseP_other dropped, ← Aws.only_tasks,
              Aws.setTasks_tasks, alike.aws]
          exact erased.take_other (sa.tasks queue message (List.mem_of_find?_eq_some found))
            (handle ▸ unseen) queue delivery draws
  | again queue receipt delivery draws =>
      simp only [System.step]
      split
      · exact alike
      · split
        next => exact alike
        next queue' message found =>
          obtain ⟨-, handle⟩ : queue' = queue ∧ message.receiptHandle = receipt := by
            simpa using List.find?_some found
          exact alike.take_other (sa.received _ (List.mem_of_find?_eq_some found))
            (handle ▸ unseen) queue delivery draws
  | call name outcome =>
      simp only [System.step]
      split
      next => exact alike
      next thread looked =>
        have concerns := sa.threads name thread looked
        refine System.Alike.resume_other ⟨?_, alike.threads, alike.received, alike.answers⟩
          concerns.advance rfl unseen
        exact (Thread.advance_only_other concerns rfl unseen).trans alike.aws

def Message.About (id : String) (m : Message) : Prop :=
  m.payload.bind (·.instanceId) = some id
  deriving Decidable

theorem Message.Attributed.about {m : Message} (attributed : m.Attributed) (id : String) :
    m.About id ↔ m.receiptHandle.subject = id := by
  obtain ⟨payload, body, about⟩ := attributed
  simp [Message.About, Message.payload, body, about]

/-- The row, the bindings, the artifact and the messages of the instance are the same in both
states, and so are the answers to the requests for it. -/
structure System.SameFor (settings : Settings) (id : String) (s t : System) : Prop where
  row : s.aws.instances id = t.aws.instances id
  bindings : ∀ bid, s.aws.bindings (bid, id) = t.aws.bindings (bid, id)
  artifact : s.aws.bucket (settings.artifactKey id) = t.aws.bucket (settings.artifactKey id)
  waiting : ∀ queue, (s.aws.tasks queue).filter (·.About id) =
    (t.aws.tasks queue).filter (·.About id)
  received : s.received.filter (·.2.About id) = t.received.filter (·.2.About id)
  deleted : s.aws.deleted.filter (·.2.subject = id) = t.aws.deleted.filter (·.2.subject = id)
  answers : s.answers.filter (·.request.instanceId = id) =
    t.answers.filter (·.request.instanceId = id)

theorem System.Attributed.waiting (attributed : s.Attributed settings) (queue : QueueName) :
    (s.aws.tasks queue).filter (·.About id) =
      (s.aws.tasks queue).filter (·.receiptHandle.subject = id) :=
  List.filter_congr fun m member => by simp [(attributed.tasks queue m member).about]

theorem System.Attributed.delivered (attributed : s.Attributed settings) :
    s.received.filter (·.2.About id) =
      s.received.filter (·.2.receiptHandle.subject = id) :=
  List.filter_congr fun r member => by simp [(attributed.received r member).about]

theorem System.Alike.sameFor (alike : s.Alike settings id t) (sa : s.Attributed settings)
    (ta : t.Attributed settings) : s.SameFor settings id t where
  row := by
    simpa [Aws.only, restrict_apply] using congrFun (congrArg Aws.instances alike.aws) id
  bindings bid := by
    simpa [Aws.only, restrict] using congrFun (congrArg Aws.bindings alike.aws) (bid, id)
  artifact := by
    simpa [Aws.only, restrict_apply] using
      congrFun (congrArg Aws.bucket alike.aws) (settings.artifactKey id)
  waiting queue := by rw [sa.waiting, ta.waiting, alike.tasks]
  received := by rw [sa.delivered, ta.delivered, alike.received]
  deleted := congrArg Aws.deleted alike.aws
  answers := alike.answers

/-- Removing the actions about other instances from a run changes nothing for the instance. -/
theorem instances_do_not_interfere (settings : Settings) (w : Aws)
    (unsent : w.provisionTasks = [] ∧ w.bindingTasks = []) (actions : List Action) (id : String) :
    (System.after settings w actions).SameFor settings id
      (System.after settings w (actions.filter (·.subject = id))) := by
  have start := System.Attributed.init settings unsent
  have related : (System.after settings w actions).Alike settings id
      (System.after settings w (actions.filter fun i => i.subject = id)) ∧
      (System.after settings w actions).Attributed settings ∧
      (System.after settings w (actions.filter fun i => i.subject = id)).Attributed settings := by
    refine Machine.exec_purge
      (R := fun s t => s.Alike settings id t ∧ s.Attributed settings ∧ t.Attributed settings)
      (System.step settings) ?_ ?_ ⟨⟨rfl, fun _ _ => rfl, rfl, rfl⟩, start, start⟩ actions
    · rintro s t i ⟨alike, sa, ta⟩ seen
      exact ⟨alike.step sa i (by simpa using seen), sa.step i, ta.step i⟩
    · rintro s t i ⟨alike, sa, ta⟩ unseen
      exact ⟨alike.step_other sa i (by simpa using unseen), sa.step i, ta⟩
  exact related.1.sameFor related.2.1 related.2.2

def twoTenants : List Action :=
  let put (id : String) : ThreadName := .request ⟨id, 0⟩
  let start (id : String) : Action := .start (.provision id ⟨"s", "p", ∅, ∅⟩ true) 0 "now"
  [start "a", start "b", .call (put "a") .ok, .call (put "b") .ok, .call (put "a") .ok,
    .call (put "b") (.fails true), .call (put "a") .ok, .receive .provision ⟨"a", 0⟩ 0 ⟨"", ""⟩,
    .again .provision ⟨"a", 0⟩ 1 ⟨"", ""⟩, .call (.handling ⟨"a", 0⟩ 1) .ok, start "b",
    .call (put "b") .ok, .call (.handling ⟨"a", 0⟩ 0) .ok]

theorem two_tenants_apart :
    (twoTenants.filter (·.subject = "a")).length = 8 ∧
      (System.after {} .empty twoTenants).SameFor {} "a"
        (System.after {} .empty (twoTenants.filter (·.subject = "a"))) :=
  ⟨by decide, instances_do_not_interfere {} .empty ⟨rfl, rfl⟩ twoTenants "a"⟩

end Regnant.Osb
