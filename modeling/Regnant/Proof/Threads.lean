import Regnant.Proof.Isolation
import Regnant.Proof.Shapes

namespace Regnant.Osb

variable {settings : Settings} {id : String} {s s' : System} {name name' : ThreadName}
  {thread : Thread} {c : Call}

def Answer.change (id : String) (a : Answer) : Option Op :=
  if a.request.instanceId = id ∧ a.response.accepted then
    match a.request with
    | .provision _ _ _ => some .provision
    | .update _ _ _ => some .update
    | .deprovision _ _ _ _ => some .deprovision
    | _ => none
  else none

def System.latest (s : System) (id : String) : Option Op :=
  s.answers.findSome? (Answer.change id)

def Thread.change (id : String) (thread : Thread) : Option Op :=
  thread.ended.join.bind (Answer.change id)

theorem Thread.change_handling (message : Message) (rest : Handler Unit) :
    (Thread.handling message rest).change id = none := by
  cases rest <;> rfl

theorem Thread.change_cases (id : String) (thread : Thread) :
    thread.change id = none ∨ thread.change id = some .provision ∨
      thread.change id = some .update ∨ thread.change id = some .deprovision := by
  unfold Thread.change
  cases thread.ended.join with
  | none => exact .inl rfl
  | some answer =>
      simp only [Option.bind_some, Answer.change]
      split
      · cases answer.request <;> simp
      · exact .inl rfl

structure System.Goes (s : System) (name : ThreadName) (thread : Thread) (s' : System) : Prop where
  own : s'.threads.lookup name = if thread.ended = none then some thread else none
  others : ∀ name', name' ≠ name → s'.threads.lookup name' = s.threads.lookup name'
  answers : s'.answers = thread.ended.join.toList ++ s.answers

theorem System.goes_resume {s₁ : System} (threads : s₁.threads = s.threads)
    (answers : s₁.answers = s.answers) : s.Goes name thread (s₁.resume name thread) := by
  unfold System.resume
  cases ended : thread.ended with
  | some answer =>
      refine ⟨by simp [ended], fun name' other => ?_, by rw [answers, ended]; rfl⟩
      rw [Finmap.lookup_erase_ne other, threads]
  | none =>
      refine ⟨by simp [ended], fun name' other => ?_, by rw [ended]; exact answers⟩
      rw [Finmap.lookup_insert_of_ne _ other, threads]

theorem System.resume_aws (s : System) (name : ThreadName) (thread : Thread) :
    (s.resume name thread).aws = s.aws := by
  unfold System.resume
  split <;> rfl

theorem Thread.next_of_ended (ended : thread.ended ≠ none) : thread.next = none := by
  cases thread with
  | request asked rest => cases rest <;> first | rfl | exact absurd rfl ended
  | handling message rest => cases rest <;> first | rfl | exact absurd rfl ended

theorem System.next_of_lookup (looked : s.threads.lookup name = some thread) :
    s.next name = thread.next := by
  rw [System.next, looked, Option.bind_some]

theorem System.next_of_not_mem (free : name ∉ s.threads) : s.next name = none := by
  rw [System.next, Finmap.lookup_eq_none.mpr free, Option.bind_none]

theorem System.Goes.next (goes : s.Goes name thread s') : s'.next name = thread.next := by
  rw [System.next, goes.own]
  split
  next => rfl
  next ended => rw [Thread.next_of_ended ended, Option.bind_none]

theorem System.Goes.next_other (goes : s.Goes name thread s') (other : name' ≠ name) :
    s'.next name' = s.next name' := by
  rw [System.next, System.next, goes.others name' other]

theorem System.Goes.next_kept (goes : s.Goes name thread s') (own : s.next name ≠ some c)
    (next : s.next name' = some c) : s'.next name' = some c := by
  have other : name' ≠ name := by
    rintro rfl
    exact own next
  rw [goes.next_other other, next]

theorem System.Goes.latest (goes : s.Goes name thread s') (id : String) :
    s'.latest id = (thread.change id).or (s.latest id) := by
  rw [System.latest, goes.answers, List.findSome?_append, Thread.change]
  cases thread.ended.join with
  | none => rfl
  | some answer => simp [System.latest]

def Action.Faultless : Action → Prop
  | .start _ _ _ => True
  | .receive _ _ _ _ => True
  | .again _ _ _ _ => False
  | .call _ outcome => outcome = .ok

instance Action.Faultless.decidable : DecidablePred Action.Faultless
  | .start _ _ _ => inferInstanceAs (Decidable True)
  | .receive _ _ _ _ => inferInstanceAs (Decidable True)
  | .again _ _ _ _ => inferInstanceAs (Decidable False)
  | .call _ outcome => inferInstanceAs (Decidable (outcome = .ok))

inductive Thread.Shaped (settings : Settings) : ThreadName → Thread → Prop where
  | request {self asked c k} (calls : (CallTree.call c k).Calls asked.Footprint)
      (every : (CallTree.call c k).Every asked.Node) :
      Shaped settings (.request self) (.request asked (.call c k))
  | handling {receipt delivery message c k}
      (every : (CallTree.call c k).Every (HandlingNode settings)) :
      Shaped settings (.handling receipt delivery) (.handling message (.call c k))

structure System.Shaped (settings : Settings) (s : System) : Prop where
  threads : ∀ name thread, s.threads.lookup name = some thread → thread.Shaped settings name
  sorted : s.aws.Sorted

inductive System.Moved (settings : Settings) (s : System) : Action → System → Prop where
  | idle {i} : Moved settings s i s
  | started {request serial now s'}
      (free : s.next (.request ⟨request.instanceId, serial⟩) = none)
      (goes : s.Goes (.request ⟨request.instanceId, serial⟩) (.request request (app now request))
        s')
      (aws : s'.aws = s.aws) : Moved settings s (.start request serial now) s'
  | received {queue message delivery draws s'}
      (free : s.next (.handling message.receiptHandle delivery) = none)
      (found : (s.aws.tasks queue).find? (·.receiptHandle = message.receiptHandle) =
        some message)
      (goes : s.Goes (.handling message.receiptHandle delivery)
        (.handling message (Worker.handle settings queue draws message)) s')
      (aws : s'.aws = s.aws.setTasks queue
        ((s.aws.tasks queue).eraseP (·.receiptHandle = message.receiptHandle))) :
      Moved settings s (.receive queue message.receiptHandle delivery draws) s'
  | requested {self asked c k s'}
      (looked : s.threads.lookup (.request self) = some (.request asked (.call c k)))
      (goes : s.Goes (.request self) (.request asked (k (perform self c s.aws).1)) s')
      (aws : s'.aws = (perform self c s.aws).2) : Moved settings s (.call (.request self) .ok) s'
  | worked {receipt delivery message c k s'}
      (looked : s.threads.lookup (.handling receipt delivery) =
        some (.handling message (.call c k)))
      (goes : s.Goes (.handling receipt delivery)
        (.handling message (k (perform receipt c s.aws).1)) s')
      (aws : s'.aws = (perform receipt c s.aws).2) :
      Moved settings s (.call (.handling receipt delivery) .ok) s'

theorem step_moved (shaped : s.Shaped settings) {i : Action} (faultless : i.Faultless) :
    s.Moved settings i (s.step settings i) := by
  cases i with
  | start request serial now =>
      simp only [System.step]
      split
      next => exact .idle
      next free =>
        exact .started (System.next_of_not_mem free) (System.goes_resume rfl rfl)
          (System.resume_aws _ _ _)
  | receive queue receipt delivery draws =>
      simp only [System.step]
      split
      next => exact .idle
      next free =>
        cases found : (s.aws.tasks queue).find? (·.receiptHandle = receipt) with
        | none => exact .idle
        | some message =>
            obtain rfl : message.receiptHandle = receipt := by simpa using List.find?_some found
            exact .received (System.next_of_not_mem free) found (System.goes_resume rfl rfl)
              (System.resume_aws _ _ _)
  | again => exact faultless.elim
  | call name outcome =>
      obtain rfl : outcome = .ok := faultless
      cases looked : s.threads.lookup name with
      | none =>
          simp only [System.step, looked]
          exact .idle
      | some thread =>
          simp only [System.step, looked]
          cases shaped.threads name thread looked with
          | request =>
              exact .requested looked (System.goes_resume rfl rfl) (System.resume_aws _ _ _)
          | handling =>
              exact .worked looked (System.goes_resume rfl rfl) (System.resume_aws _ _ _)

theorem System.Shaped.goes (shaped : s.Shaped settings) (goes : s.Goes name thread s')
    (sorted : s'.aws.Sorted) (kept : thread.ended = none → thread.Shaped settings name) :
    s'.Shaped settings := by
  refine ⟨fun name' thread' looked => ?_, sorted⟩
  by_cases same : name' = name
  · subst same
    rw [goes.own] at looked
    split at looked
    next goes_on => exact Option.some.inj looked ▸ kept goes_on
    next => cases looked
  · exact shaped.threads name' thread' ((goes.others name' same).symm.trans looked)

theorem Thread.Shaped.of_request {self : ExecutionName} {asked : Request} {rest : Handler Response}
    (calls : rest.Calls asked.Footprint) (every : rest.Every asked.Node)
    (goes : (Thread.request asked rest).ended = none) :
    (Thread.request asked rest).Shaped settings (.request self) := by
  cases rest with
  | ret response => cases goes
  | raise e => cases goes
  | call c k => exact .request calls every

theorem Thread.Shaped.of_handling {receipt : ExecutionName} {delivery : Nat} {message : Message}
    {rest : Handler Unit} (every : rest.Every (HandlingNode settings))
    (goes : (Thread.handling message rest).ended = none) :
    (Thread.handling message rest).Shaped settings (.handling receipt delivery) := by
  cases rest with
  | ret response => cases goes
  | raise e => cases goes
  | call c k => exact .handling every

theorem HandlingNode.sorted {self : ExecutionName} {k : Except Exn c.Result → Handler Unit}
    {w : Aws} (node : HandlingNode settings c k) (sorted : w.Sorted) :
    (perform self c w).2.Sorted := by
  cases c with
  | sendMessage => exact node.elim
  | putInstance => exact node.elim
  | putBinding bid id item =>
      simp only [perform]
      split <;> exact ⟨sorted.provision, sorted.binding⟩
  | _ => exact ⟨sorted.provision, sorted.binding⟩

theorem Aws.Sorted.shape {w : Aws} (sorted : w.Sorted) (settings : Settings) {queue : QueueName}
    {message : Message} (member : message ∈ w.tasks queue) (draws : Draws) :
    HandlingShape settings (Worker.handle settings queue draws message) := by
  obtain ⟨receipt, body⟩ := message
  cases queue with
  | provision =>
      obtain ⟨payload, rfl, task⟩ := sorted.provision _ member
      exact shape_handle (.inl task) draws
  | binding =>
      obtain ⟨payload, rfl, task⟩ := sorted.binding _ member
      exact shape_handle (.inr task) draws

theorem Aws.Sorted.setTasks {w : Aws} (sorted : w.Sorted) {queue : QueueName}
    {messages : List Message} (sub : messages ⊆ w.tasks queue) :
    (w.setTasks queue messages).Sorted := by
  cases queue with
  | provision => exact ⟨fun m member => sorted.provision m (sub member), sorted.binding⟩
  | binding => exact ⟨sorted.provision, fun m member => sorted.binding m (sub member)⟩

theorem System.Shaped.moved {i : Action} (shaped : s.Shaped settings)
    (moved : s.Moved settings i s') : s'.Shaped settings := by
  cases moved with
  | idle => exact shaped
  | started free goes aws =>
      exact shaped.goes goes (aws ▸ shaped.sorted) (.of_request (calls_app _ _) (every_app _ _))
  | received free found goes aws =>
      have member := List.mem_of_find?_eq_some found
      exact shaped.goes goes (aws ▸ shaped.sorted.setTasks List.eraseP_subset)
        (.of_handling (shaped.sorted.shape settings member _).every)
  | requested looked goes aws =>
      cases shaped.threads _ _ looked with
      | request calls every =>
          exact shaped.goes goes (aws ▸ shaped.sorted.perform_request calls.1)
            (.of_request (calls.2 _) (every.2 _))
  | worked looked goes aws =>
      cases shaped.threads _ _ looked with
      | handling every =>
          exact shaped.goes goes (aws ▸ every.1.sorted shaped.sorted) (.of_handling (every.2 _))

end Regnant.Osb
