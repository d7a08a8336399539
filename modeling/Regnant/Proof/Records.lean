import Regnant.Osb.Record
import Regnant.Proof.Threads

namespace Regnant.Osb

variable {settings : Settings} {name : ThreadName} {self : ExecutionName} {records : List Entry}

abbrev Performed.next (p : Performed) : Thread :=
  (p.thread.advance p.outcome p.name.self p.before).1

abbrev Performed.after (p : Performed) : Aws :=
  (p.thread.advance p.outcome p.name.self p.before).2

theorem Thread.advance_aws {thread : Thread} {c : Call} (next : thread.next = some c)
    (outcome : Outcome) (self : ExecutionName) (w : Aws) :
    (thread.advance outcome self w).2 = (outcome.perform self c w).2 := by
  cases thread with
  | request asked rest =>
      cases rest with
      | call c' k => exact Option.some.inj next ▸ rfl
      | _ => cases next
  | handling message rest =>
      cases rest with
      | call c' k => exact Option.some.inj next ▸ rfl
      | _ => cases next

theorem Thread.advance_none {thread : Thread} (ended : thread.next = none) (outcome : Outcome)
    (self : ExecutionName) (w : Aws) : (thread.advance outcome self w).2 = w := by
  cases thread with
  | request asked rest =>
      cases rest with
      | call c k => cases ended
      | _ => rfl
  | handling message rest =>
      cases rest with
      | call c k => cases ended
      | _ => rfl

theorem Performed.after_effective {p : Performed} {c : Call} (next : p.thread.next = some c)
    (effective : p.outcome ≠ .fails false) : p.after = (perform p.name.self c p.before).2 := by
  rw [Performed.after, Thread.advance_aws next]
  cases outcome : p.outcome with
  | ok => rfl
  | fails effect =>
      cases effect with
      | true => rfl
      | false => exact absurd outcome effective

theorem Performed.after_cases (p : Performed) : p.after = p.before ∨ ∃ c,
    p.thread.next = some c ∧ p.outcome ≠ .fails false ∧
      p.after = (perform p.name.self c p.before).2 := by
  cases next : p.thread.next with
  | none => exact .inl (Thread.advance_none next _ _ _)
  | some c =>
      by_cases effective : p.outcome = .fails false
      · left
        rw [Performed.after, Thread.advance_aws next, effective]
        rfl
      · exact .inr ⟨c, rfl, effective, p.after_effective next effective⟩

def Entry.About (name : ThreadName) : Entry → Prop
  | .started self _ => .request self = name
  | .performed p => p.name = name
  | .answered self _ => .request self = name

theorem execution_started (self : ExecutionName) (request : Request) (records : List Entry) :
    execution self (.started self request :: records) = [] := by
  simp [execution, Entry.starts]

theorem execution_performed {p : Performed} (own : p.name = .request self) :
    execution self (.performed p :: records) = p :: execution self records := by
  simp [execution, Entry.starts, Entry.performedBy, own]

theorem execution_answered (self self' : ExecutionName) (answer : Answer)
    (records : List Entry) :
    execution self (.answered self' answer :: records) = execution self records := by
  simp [execution, Entry.starts, Entry.performedBy, List.filterMap_cons]

theorem execution_other {r : Entry} (other : ¬r.About (.request self)) :
    execution self (r :: records) = execution self records := by
  cases r with
  | started self' request =>
      have other : self' ≠ self := fun same => other (congrArg ThreadName.request same)
      simp [execution, Entry.starts, Entry.performedBy, other, List.filterMap_cons]
  | performed p =>
      have other : p.name ≠ .request self := other
      simp [execution, Entry.starts, Entry.performedBy, other]
  | answered self' answer => exact execution_answered self self' answer records

inductive Recorded.Moved (settings : Settings) (s : Recorded) : Recorded → Prop where
  | idle : Moved settings s s
  | started {self request now s'} (free : s.system.threads.lookup (.request self) = none)
      (goes : s.system.Goes (.request self) (.request request (app now request)) s'.system)
      (aws : s'.system.aws = s.system.aws)
      (records : s'.records = (Thread.request request (app now request)).answers (.request self) ++
        .started self request :: s.records) : Moved settings s s'
  | taken {delivery message queue draws s'}
      (goes : s.system.Goes (.handling message.receiptHandle delivery)
        (.handling message (Worker.handle settings queue draws message)) s'.system)
      (instances : s'.system.aws.instances = s.system.aws.instances)
      (bindings : s'.system.aws.bindings = s.system.aws.bindings)
      (records : s'.records = s.records) : Moved settings s s'
  | performed {p : Performed} {s'} (before : p.before = s.system.aws)
      (looked : s.system.threads.lookup p.name = some p.thread)
      (goes : s.system.Goes p.name p.next s'.system)
      (aws : s'.system.aws = (p.thread.advance p.outcome p.name.self p.before).2)
      (records : s'.records = p.next.answers p.name ++ .performed p :: s.records) :
      Moved settings s s'

theorem Aws.setTasks_instances (w : Aws) (queue : QueueName) (messages : List Message) :
    (w.setTasks queue messages).instances = w.instances := by
  cases queue <;> rfl

theorem Aws.setTasks_bindings (w : Aws) (queue : QueueName) (messages : List Message) :
    (w.setTasks queue messages).bindings = w.bindings := by
  cases queue <;> rfl

theorem recorded_moved (settings : Settings) (s : Recorded) (i : Action) :
    s.Moved settings (s.step settings i) := by
  obtain ⟨s, records⟩ := s
  cases i with
  | start request serial now =>
      simp only [Recorded.step, System.step, System.records]
      split
      next => exact .idle
      next free =>
        refine .started (Finmap.lookup_eq_none.mpr free) (System.goes_resume rfl rfl)
          (System.resume_aws _ _ _) ?_
        simp
  | receive queue receipt delivery draws =>
      simp only [Recorded.step, System.step, System.records, List.nil_append]
      split
      next => exact .idle
      next =>
        cases found : (s.aws.tasks queue).find? (·.receiptHandle = receipt) with
        | none => exact .idle
        | some message =>
            obtain rfl : message.receiptHandle = receipt := by simpa using List.find?_some found
            refine .taken (System.goes_resume rfl rfl) ?_ ?_ rfl
            · exact (congrArg _ (System.resume_aws _ _ _)).trans (Aws.setTasks_instances _ _ _)
            · exact (congrArg _ (System.resume_aws _ _ _)).trans (Aws.setTasks_bindings _ _ _)
  | again queue receipt delivery draws =>
      simp only [Recorded.step, System.step, System.records, List.nil_append]
      split
      next => exact .idle
      next =>
        cases found : s.received.find? fun r => r.1 = queue ∧ r.2.receiptHandle = receipt with
        | none => exact .idle
        | some r =>
            refine .taken (System.goes_resume rfl rfl) ?_ ?_ rfl
            · exact congrArg _ (System.resume_aws _ _ _)
            · exact congrArg _ (System.resume_aws _ _ _)
  | call name outcome =>
      cases looked : s.threads.lookup name with
      | none =>
          simp only [Recorded.step, System.step, System.records, looked]
          exact .idle
      | some thread =>
          simp only [Recorded.step, System.step, System.records, looked]
          refine .performed (p := ⟨s.aws, name, thread, outcome⟩) rfl looked
            (System.goes_resume rfl rfl) (System.resume_aws _ _ _) ?_
          simp

/-- What holds of a thread and the records before it when it begins, and stays true by its own
calls and by the records of others. -/
structure Kept (settings : Settings) (P : List Entry → ThreadName → Thread → Prop) : Prop where
  started : ∀ records self request now, P (.started self request :: records) (.request self)
    (.request request (app now request))
  taken : ∀ records message delivery queue draws,
    P records (.handling message.receiptHandle delivery)
      (.handling message (Worker.handle settings queue draws message))
  own : ∀ records p, P records p.name p.thread → P (.performed p :: records) p.name p.next
  other : ∀ records r name thread, P records name thread → ¬r.About name →
    P (r :: records) name thread

variable {P : List Entry → ThreadName → Thread → Prop} {J : Entry → List Entry → Prop}

def Justified (J : Entry → List Entry → Prop) (records : List Entry) : Prop :=
  ∀ later r earlier, records = later ++ r :: earlier → J r earlier

theorem Justified.nil : Justified J [] := by
  intro later r earlier split
  simp at split

theorem Justified.cons {r : Entry} (justified : Justified J records) (here : J r records) :
    Justified J (r :: records) := by
  intro later r' earlier split
  cases later with
  | nil =>
      obtain ⟨rfl, rfl⟩ := List.cons.inj split
      exact here
  | cons r'' later => exact justified later r' earlier (List.cons.inj split).2

theorem Thread.answers_of_running {thread : Thread} (running : thread.ended = none)
    (name : ThreadName) : thread.answers name = [] := by
  cases name with
  | request self => rw [Thread.answers, running]; rfl
  | handling => rfl

theorem Thread.answers_cases (thread : Thread) (name : ThreadName) :
    thread.answers name = [] ∨ ∃ self answer, name = .request self ∧
      thread.ended.join = some answer ∧ thread.answers name = [.answered self answer] := by
  cases name with
  | request self =>
      cases ended : thread.ended.join with
      | none => exact .inl (by rw [Thread.answers, ended]; rfl)
      | some answer => exact .inr ⟨self, answer, rfl, rfl, by rw [Thread.answers, ended]; rfl⟩
  | handling => exact .inl rfl

structure Recorded.Holds (P : List Entry → ThreadName → Thread → Prop)
    (J : Entry → List Entry → Prop) (s : Recorded) : Prop where
  threads : ∀ name thread, s.system.threads.lookup name = some thread → P s.records name thread
  justified : Justified J s.records

theorem Recorded.Holds.threads_goes {s s' : Recorded} {thread : Thread} (holds : s.Holds P J)
    (goes : s.system.Goes name thread s'.system)
    (own : thread.ended = none → P s'.records name thread)
    (others : ∀ name' thread', name' ≠ name → P s.records name' thread' →
      P s'.records name' thread') :
    ∀ name thread, s'.system.threads.lookup name = some thread → P s'.records name thread := by
  intro name' thread' looked
  by_cases same : name' = name
  · subst same
    rw [goes.own] at looked
    split at looked
    next running => exact Option.some.inj looked ▸ own running
    next => cases looked
  · rw [goes.others name' same] at looked
    exact others name' thread' same (holds.threads name' thread' looked)

theorem Recorded.Holds.goes {s s' : Recorded} {thread : Thread} {added : Entry}
    (holds : s.Holds P J) (kept : Kept settings P) (goes : s.system.Goes name thread s'.system)
    (records : s'.records = thread.answers name ++ added :: s.records)
    (about : added.About name) (own : P (added :: s.records) name thread)
    (justified : J added s.records)
    (answered : ∀ records self answer thread, P records (.request self) thread →
      thread.ended.join = some answer → J (.answered self answer) records) : s'.Holds P J := by
  have before : Justified J (added :: s.records) := holds.justified.cons justified
  constructor
  · refine holds.threads_goes goes (fun running => ?_) fun name' thread' distinct here => ?_
    · rw [records, Thread.answers_of_running running, List.nil_append]
      exact own
    · have others : P (added :: s.records) name' thread' := by
        refine kept.other _ _ _ _ here fun about' => distinct ?_
        cases added <;> exact about'.symm.trans about
      rw [records]
      obtain none | ⟨self, answer, rfl, -, some⟩ := thread.answers_cases name
      · rwa [none]
      · rw [some]
        exact kept.other _ _ _ _ others fun about' => distinct about'.symm
  · rw [records]
    obtain none | ⟨self, answer, rfl, ended, some⟩ := thread.answers_cases name
    · rwa [none]
    · rw [some]
      exact before.cons (answered _ _ _ _ own ended)

theorem Recorded.Holds.moved {s s' : Recorded} (holds : s.Holds P J) (kept : Kept settings P)
    (started : ∀ records self request, J (.started self request) records)
    (performed : ∀ records p, P records p.name p.thread → J (.performed p) records)
    (answered : ∀ records self answer thread, P records (.request self) thread →
      thread.ended.join = some answer → J (.answered self answer) records)
    (moved : s.Moved settings s') : s'.Holds P J := by
  cases moved with
  | idle => exact holds
  | started free goes aws records =>
      exact holds.goes kept goes records rfl (kept.started _ _ _ _) (started _ _ _) answered
  | taken goes instances bindings records =>
      constructor
      · rw [records]
        exact records ▸ holds.threads_goes goes (fun _ => records ▸ kept.taken _ _ _ _ _)
          fun _ _ _ here => records ▸ here
      · rw [records]
        exact holds.justified
  | @performed p _ before looked goes aws records =>
      have here := holds.threads _ _ looked
      exact holds.goes kept goes records rfl (kept.own _ _ here) (performed _ _ here) answered

theorem recorded_holds (kept : Kept settings P)
    (started : ∀ records self request, J (.started self request) records)
    (performed : ∀ records p, P records p.name p.thread → J (.performed p) records)
    (answered : ∀ records self answer thread, P records (.request self) thread →
      thread.ended.join = some answer → J (.answered self answer) records)
    (w : Aws) (actions : List Action) : (Recorded.after settings w actions).Holds P J := by
  refine Machine.exec_invariant (I := Recorded.Holds P J) _ (fun s i holds _ => ?_)
    ⟨fun _ _ looked => (by simp at looked), .nil⟩ (.true _ _ actions)
  exact holds.moved kept started performed answered (recorded_moved settings s i)

end Regnant.Osb
