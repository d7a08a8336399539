import Regnant.Proof.Threads

/-!
# Deprovision under interleaving

When handlings find the row they update, and no artifact is written between the two deletions of a
deprovision handling, whatever is left of an instance is accounted for: by a newer request, or by a
deprovision message that is still to be handled.
-/

namespace Regnant.Osb
open Function (update_self update_of_ne)

def System.Renewed (s : System) (id : String) : Prop :=
  s.latest id = some .provision ∨ s.latest id = some .update

def System.Sending (s : System) (id : String) : Prop :=
  ∃ self payload, payload.instanceId = some id ∧
    s.next (.request self) = some (.sendMessage .provision payload)

def System.Pending (settings : Settings) (s : System) (id : String) : Prop :=
  (∃ m ∈ s.aws.provisionTasks, m.body = .object (.deprovision id)) ∨
    ∃ name, s.next name = some (.deleteObject (settings.artifactKey id))

/-- A deprovision handling has deleted the artifact and not yet the row. -/
def System.Halfway (s : System) (id : String) : Prop :=
  ∃ name, s.next name = some (.deleteInstance id)

def System.Publishing (s : System) (id : String) : Prop :=
  ∃ receipt delivery u, s.next (.handling receipt delivery) = some (.updateInstance id u)

structure System.Accounted (settings : Settings) (id : String) (s : System) : Prop where
  row : s.aws.instances id ≠ none →
    s.Renewed id ∨ s.Sending id ∨ s.Pending settings id ∨ s.Halfway id
  halfway : s.Halfway id → s.aws.bucket (settings.artifactKey id) = none
  artifact : s.aws.bucket (settings.artifactKey id) ≠ none →
    s.Renewed id ∨ s.Sending id ∨ s.Pending settings id ∨
      s.aws.instances id = none ∧ s.Publishing id

variable {settings : Settings} {id : String} {s s' : System} {name : ThreadName}
  {thread : Thread} {c : Call} {w : Aws} {self : ExecutionName}

/-- A newer request accounts for what is left of the instance, or a deprovision message that is
still to be handled. -/
def System.Excused (settings : Settings) (s : System) (id : String) : Prop :=
  s.Renewed id ∨ s.Sending id ∨ s.Pending settings id

theorem System.accounted_iff : s.Accounted settings id ↔
    (s.aws.instances id ≠ none → s.Excused settings id ∨ s.Halfway id) ∧
      (s.Halfway id → s.aws.bucket (settings.artifactKey id) = none) ∧
      (s.aws.bucket (settings.artifactKey id) ≠ none →
        s.Excused settings id ∨ s.aws.instances id = none ∧ s.Publishing id) := by
  simp only [System.Excused, or_assoc]
  exact ⟨fun h => ⟨h.row, h.halfway, h.artifact⟩, fun h => ⟨h.1, h.2.1, h.2.2⟩⟩

theorem System.Accounted.of_excused (excused : s.Excused settings id)
    (halfway : s.Halfway id → s.aws.bucket (settings.artifactKey id) = none) :
    s.Accounted settings id :=
  System.accounted_iff.mpr ⟨fun _ => .inl excused, halfway, fun _ => .inl excused⟩

theorem System.Renewed.goes (renewed : s.Renewed id) (goes : s.Goes name thread s')
    (change : thread.change id ≠ some .deprovision) : s'.Renewed id := by
  rw [System.Renewed, goes.latest]
  rcases thread.change_cases id with none | provision | update | deprovision
  · rwa [none, Option.none_or]
  · exact .inl (by rw [provision, Option.some_or])
  · exact .inr (by rw [update, Option.some_or])
  · exact absurd deprovision change

theorem System.Sending.goes (sending : s.Sending id) (goes : s.Goes name thread s')
    (own : ∀ payload : Payload, payload.instanceId = some id →
      s.next name ≠ some (.sendMessage .provision payload)) : s'.Sending id := by
  obtain ⟨self, payload, about, next⟩ := sending
  exact ⟨self, payload, about, goes.next_kept (own payload about) next⟩

theorem System.Pending.goes (pending : s.Pending settings id) (goes : s.Goes name thread s')
    (own : s.next name ≠ some (.deleteObject (settings.artifactKey id)))
    (tasks : ∀ m ∈ s.aws.provisionTasks, m.body = .object (.deprovision id) →
      m ∈ s'.aws.provisionTasks ∨
        thread.next = some (.deleteObject (settings.artifactKey id))) :
    s'.Pending settings id := by
  rcases pending with ⟨m, member, body⟩ | ⟨name', next⟩
  · rcases tasks m member body with member | next
    · exact .inl ⟨m, member, body⟩
    · exact .inr ⟨name, goes.next.trans next⟩
  · exact .inr ⟨name', goes.next_kept own next⟩

theorem System.Excused.goes (excused : s.Excused settings id) (goes : s.Goes name thread s')
    (change : thread.change id ≠ some .deprovision)
    (sending : ∀ payload : Payload, payload.instanceId = some id →
      s.next name ≠ some (.sendMessage .provision payload))
    (deleting : s.next name ≠ some (.deleteObject (settings.artifactKey id)))
    (tasks : ∀ m ∈ s.aws.provisionTasks, m.body = .object (.deprovision id) →
      m ∈ s'.aws.provisionTasks ∨
        thread.next = some (.deleteObject (settings.artifactKey id))) :
    s'.Excused settings id := by
  rcases excused with renewed | own | pending
  · exact .inl (renewed.goes goes change)
  · exact .inr (.inl (own.goes goes sending))
  · exact .inr (.inr (pending.goes goes deleting tasks))

theorem System.Halfway.goes (halfway : s.Halfway id) (goes : s.Goes name thread s')
    (own : s.next name ≠ some (.deleteInstance id)) : s'.Halfway id := by
  obtain ⟨name', next⟩ := halfway
  exact ⟨name', goes.next_kept own next⟩

theorem System.Publishing.goes (publishing : s.Publishing id) (goes : s.Goes name thread s')
    (own : ∀ u, s.next name ≠ some (.updateInstance id u)) : s'.Publishing id := by
  obtain ⟨receipt, delivery, u, next⟩ := publishing
  exact ⟨receipt, delivery, u, goes.next_kept (own u) next⟩

theorem System.Halfway.of_goes (halfway : s'.Halfway id) (goes : s.Goes name thread s')
    (kept : thread.next ≠ some (.deleteInstance id)) : s.Halfway id := by
  obtain ⟨name', next⟩ := halfway
  by_cases same : name' = name
  · subst same
    exact absurd (goes.next.symm.trans next) kept
  · exact ⟨name', (goes.next_other same).symm.trans next⟩

def Call.Marks (settings : Settings) (id : String) : Call → Prop
  | .updateInstance id' _ => id' = id
  | .deleteInstance id' => id' = id
  | .deleteObject key => key = settings.artifactKey id
  | .sendMessage .provision payload => payload.instanceId = some id
  | _ => False

def Call.Matters (settings : Settings) (id : String) : Call → Prop
  | .putInstance id' _ => id' = id
  | .putObject key _ => key = settings.artifactKey id
  | c => c.Marks settings id

theorem Call.Marks.matters (marks : c.Marks settings id) : c.Matters settings id := by
  cases c with
  | putInstance => exact marks.elim
  | putObject => exact marks.elim
  | _ => exact marks

theorem perform_elsewhere (self : ExecutionName) (w : Aws) (elsewhere : ¬c.Matters settings id) :
    (perform self c w).2.instances id = w.instances id ∧
      (perform self c w).2.bucket (settings.artifactKey id) =
        w.bucket (settings.artifactKey id) := by
  cases c with
  | putInstance id' item =>
      have other : id ≠ id' := Ne.symm elsewhere
      simp only [perform]
      split
      · exact ⟨rfl, rfl⟩
      · exact ⟨update_of_ne other _ _, rfl⟩
  | updateInstance id' u => exact ⟨update_of_ne (Ne.symm elsewhere) _ _, rfl⟩
  | deleteInstance id' => exact ⟨update_of_ne (Ne.symm elsewhere) _ _, rfl⟩
  | putBinding bid id' item =>
      simp only [perform]
      split <;> exact ⟨rfl, rfl⟩
  | putObject key body => exact ⟨rfl, update_of_ne (Ne.symm elsewhere) _ _⟩
  | deleteObject key => exact ⟨rfl, update_of_ne (Ne.symm elsewhere) _ _⟩
  | sendMessage queue payload => cases queue <;> exact ⟨rfl, rfl⟩
  | _ => exact ⟨rfl, rfl⟩

theorem provisionTasks_kept (self : ExecutionName) (c : Call) (w : Aws) {m : Message}
    (member : m ∈ w.provisionTasks) : m ∈ (perform self c w).2.provisionTasks := by
  have appended : m ∈ (perform self c w).2.tasks .provision := by
    rw [perform_tasks]
    exact List.mem_append_left _ member
  exact appended

theorem System.Accounted.goes (accounted : s.Accounted settings id)
    (goes : s.Goes name thread s') (own : ∀ c, s.next name = some c → ¬c.Marks settings id)
    (row : s'.aws.instances id = s.aws.instances id)
    (artifact : s'.aws.bucket (settings.artifactKey id) =
      s.aws.bucket (settings.artifactKey id))
    (tasks : ∀ m ∈ s.aws.provisionTasks, m.body = .object (.deprovision id) →
      m ∈ s'.aws.provisionTasks ∨ thread.next = some (.deleteObject (settings.artifactKey id)))
    (kept : thread.next ≠ some (.deleteInstance id))
    (change : thread.change id ≠ some .deprovision) : s'.Accounted settings id := by
  obtain ⟨rows, halfway, artifacts⟩ := System.accounted_iff.mp accounted
  have excused (excused : s.Excused settings id) : s'.Excused settings id :=
    excused.goes goes change (fun _ about next => own _ next about) (fun next => own _ next rfl)
      tasks
  refine System.accounted_iff.mpr ⟨fun present => ?_, fun between => ?_, fun present => ?_⟩
  · rcases rows (row ▸ present) with h | h
    · exact .inl (excused h)
    · exact .inr (h.goes goes fun next => own _ next rfl)
  · exact artifact.trans (halfway (between.of_goes goes kept))
  · rcases artifacts (artifact ▸ present) with h | ⟨absent, h⟩
    · exact .inl (excused h)
    · exact .inr ⟨row.trans absent, h.goes goes fun _ next => own _ next rfl⟩

/-! ## Requests -/

section Requests
variable {asked : Request} {rest : Handler Response}
  {k : Except Exn c.Result → Handler Response}

theorem request_next (every : rest.Every asked.Node) (id : String) :
    rest.next ≠ some (.deleteInstance id) := by
  cases rest with
  | ret response => exact fun same => by cases same
  | raise e => exact fun same => by cases same
  | call c k =>
      intro same
      obtain rfl := Option.some.inj same
      exact every.1

theorem request_change (quiet : ∀ response, rest = .ret response → asked.instanceId = id →
    asked.Deprovisions → ¬response.accepted) :
    (Thread.request asked rest).change id ≠ some .deprovision := by
  cases rest with
  | ret response =>
      intro deprovision
      simp only [Thread.change, Thread.ended, Option.join_some, Option.bind_some, Answer.change]
        at deprovision
      split at deprovision
      next seen =>
        cases asked <;> simp only [reduceCtorEq, Option.some.injEq] at deprovision
        exact quiet response rfl seen.1 trivial seen.2
      next => cases deprovision
  | raise e => simp [Thread.change, Thread.ended, Answer.change, Response.accepted]
  | call c k => simp [Thread.change, Thread.ended]

theorem System.Accounted.started (accounted : s.Accounted settings id) {now : String}
    (free : s.next (.request self) = none)
    (goes : s.Goes (.request self) (.request asked (app now asked)) s')
    (aws : s'.aws = s.aws) : s'.Accounted settings id := by
  refine accounted.goes goes ?_ (by rw [aws]) (by rw [aws]) (fun m member _ => .inl ?_)
    (request_next (every_app now asked) id) ?_
  · intro c next
    cases free.symm.trans next
  · rwa [aws]
  · exact request_change fun response ended _ _ => app_ret ended

theorem System.Accounted.requested_elsewhere (accounted : s.Accounted settings id)
    (next : s.next (.request self) = some c) (every : (CallTree.call c k).Every asked.Node)
    (concerns : c.Concerns settings asked.instanceId) (elsewhere : ¬c.Matters settings id)
    (goes : s.Goes (.request self) (.request asked (k (perform self c s.aws).1)) s')
    (aws : s'.aws = (perform self c s.aws).2) : s'.Accounted settings id := by
  obtain ⟨row, artifact⟩ := perform_elsewhere self s.aws elsewhere
  refine accounted.goes goes ?_ (aws ▸ row) (aws ▸ artifact)
    (fun m member _ => .inl (aws ▸ provisionTasks_kept self c s.aws member))
    (request_next (every.2 _) id) ?_
  · intro c' next' marks
    obtain rfl := Option.some.inj (next.symm.trans next')
    exact elsewhere marks.matters
  · refine request_change fun response ended own deprovisions => ?_
    subst own
    have node := every.1
    cases c with
    | putInstance => exact (elsewhere concerns).elim
    | updateInstance => exact (elsewhere concerns).elim
    | sendMessage queue payload =>
        cases queue with
        | provision => exact (elsewhere concerns).elim
        | binding => exact node deprovisions _ response ended
    | deleteInstance => exact node.elim
    | putObject => exact node.elim
    | deleteObject => exact node.elim
    | _ => exact node deprovisions _ response ended

theorem System.Accounted.written (accounted : s.Accounted settings id)
    (goes : s.Goes (.request self) (.request asked rest) s') (bucket : s'.aws.bucket = s.aws.bucket)
    (sends : ∃ payload : Payload, payload.instanceId = some id ∧
      rest.next = some (.sendMessage .provision payload)) : s'.Accounted settings id := by
  obtain ⟨payload, about, next⟩ := sends
  refine .of_excused (.inr (.inl ⟨self, payload, about, goes.next.trans next⟩)) fun halfway => ?_
  rw [bucket]
  refine accounted.halfway (halfway.of_goes goes fun same => ?_)
  cases next.symm.trans same

theorem System.Accounted.sent (accounted : s.Accounted settings id) {payload : Payload}
    {response : Response} (own : asked.instanceId = id) (accepted : response.accepted)
    (announces : asked.Announces payload)
    (goes : s.Goes (.request self) (.request asked (.ret response)) s')
    (aws : s'.aws = (perform self (.sendMessage .provision payload) s.aws).2) :
    s'.Accounted settings id := by
  refine .of_excused ?_ fun halfway => ?_
  · rw [System.Excused, System.Renewed, goes.latest]
    cases asked with
    | provision id' payload' incomplete =>
        obtain rfl : id' = id := own
        simp [Thread.change, Thread.ended, Answer.change, Request.instanceId, accepted]
    | update id' payload' incomplete =>
        obtain rfl : id' = id := own
        simp [Thread.change, Thread.ended, Answer.change, Request.instanceId, accepted]
    | deprovision id' service plan incomplete =>
        obtain rfl : id' = id := own
        obtain rfl : payload = .deprovision id' := announces
        refine .inr (.inr (.inl ⟨⟨self, .object (.deprovision id')⟩, ?_, rfl⟩))
        simp [aws, perform]
    | _ => exact announces.elim
  · rw [aws]
    exact accounted.halfway (halfway.of_goes goes fun same => by cases same)

theorem System.Accounted.requested (accounted : s.Accounted settings id)
    (next : s.next (.request self) = some c) (every : (CallTree.call c k).Every asked.Node)
    (concerns : (CallTree.call c k).Calls (Call.Concerns settings asked.instanceId))
    (goes : s.Goes (.request self) (.request asked (k (perform self c s.aws).1)) s')
    (aws : s'.aws = (perform self c s.aws).2) : s'.Accounted settings id := by
  by_cases matters : c.Matters settings id
  · have writes {r : Except Exn c.Result} (own : asked.instanceId = id)
        (goes : s.Goes (.request self) (.request asked (k r)) s')
        (bucket : s'.aws.bucket = s.aws.bucket)
        (sends : ∃ payload, (k r).next = some (.sendMessage .provision payload)) :
        s'.Accounted settings id := by
      obtain ⟨payload, sends⟩ := sends
      have concerned := CallTree.Calls.next (concerns.2 r) sends
      have about : payload.instanceId = some asked.instanceId := concerned
      exact accounted.written goes bucket ⟨payload, own ▸ about, sends⟩
    cases c with
    | putInstance id' item =>
        obtain rfl : id' = id := matters
        have own : asked.instanceId = id' := Eq.symm concerns.1
        simp only [perform] at goes aws
        cases row : s.aws.instances id' with
        | none =>
            rw [row] at goes aws
            exact writes own goes (by rw [aws]) every.1.2
        | some item' =>
            -- another request made the row first, and the condition of the put fails
            rw [row] at goes aws
            refine accounted.goes goes ?_ (by rw [aws]) (by rw [aws])
              (fun m member _ => .inl (aws ▸ member)) (request_next (every.2 _) id') ?_
            · intro c' next'
              obtain rfl := Option.some.inj (next.symm.trans next')
              exact id
            · exact request_change fun _ _ _ deprovisions => (every.1.1 deprovisions).elim
    | updateInstance id' u =>
        obtain rfl : id' = id := matters
        exact writes (Eq.symm concerns.1) goes (by rw [aws]; rfl) every.1
    | sendMessage queue payload =>
        cases queue with
        | provision =>
            have own : asked.instanceId = id := Option.some.inj (concerns.1.symm.trans matters)
            obtain ⟨response, ended, accepted, announces⟩ := every.1
            rw [perform, ended] at goes
            exact accounted.sent own accepted announces goes aws
        | binding => exact matters.elim
    | deleteInstance => exact every.1.elim
    | putObject => exact every.1.elim
    | deleteObject => exact every.1.elim
    | _ => exact matters.elim
  · exact accounted.requested_elsewhere next every concerns.1 matters goes aws

end Requests

/-! ## Handlings -/

/-- The condition under which a handling may make the call: it finds the row that it updates, and
writes no artifact while a deprovision handling stands between its two deletions. -/
def System.InOrder (settings : Settings) (id : String) (s : System) : Option Call → Prop
  | some (.updateInstance id' _) => id' = id → s.aws.instances id ≠ none
  | some (.putObject key _) => key = settings.artifactKey id → ¬s.Halfway id
  | _ => True

section Handlings
variable {receipt : ExecutionName} {delivery : Nat} {message : Message} {rest : Handler Unit}
  {k : Except Exn c.Result → Handler Unit}

theorem handling_change : (Thread.handling message rest).change id ≠ some .deprovision := by
  rw [Thread.change_handling]
  exact fun same => by cases same

theorem handling_next (node : HandlingNode settings c k)
    (other : c ≠ .deleteObject (settings.artifactKey id)) :
    (k (perform self c w).1).next ≠ some (.deleteInstance id) := by
  cases c with
  | putObject key document =>
      obtain ⟨id', u, -, next⟩ := node
      exact fun same => by cases next.symm.trans same
  | deleteObject key =>
      obtain ⟨id', key, next⟩ := node
      intro same
      injection Option.some.inj (next.symm.trans same) with same
      exact other (by rw [key, same])
  | putInstance => exact node.elim
  | sendMessage => exact node.elim
  | _ => exact node _ id

theorem waiting_or_found {q : Message → Bool} {l : List Message} {m found : Message}
    (first : l.find? q = some found) (member : m ∈ l) : m = found ∨ m ∈ l.eraseP q := by
  induction l with
  | nil => cases member
  | cons a l ih =>
      cases here : q a with
      | true =>
          rw [List.find?_cons_of_pos here] at first
          obtain rfl := Option.some.inj first
          rw [List.eraseP_cons_of_pos here]
          exact List.mem_cons.mp member
      | false =>
          have skip : ¬q a = true := by simp [here]
          rw [List.find?_cons_of_neg skip] at first
          rw [List.eraseP_cons_of_neg skip]
          rcases List.mem_cons.mp member with rfl | member
          · exact .inr List.mem_cons_self
          · exact (ih first member).imp_right (List.mem_cons_of_mem _)

theorem System.Accounted.received (accounted : s.Accounted settings id) (sorted : s.aws.Sorted)
    {queue : QueueName} {draws : Draws}
    (free : s.next (.handling message.receiptHandle delivery) = none)
    (found : (s.aws.tasks queue).find? (·.receiptHandle = message.receiptHandle) =
      some message)
    (goes : s.Goes (.handling message.receiptHandle delivery)
      (.handling message (Worker.handle settings queue draws message)) s')
    (aws : s'.aws = s.aws.setTasks queue
      ((s.aws.tasks queue).eraseP (·.receiptHandle = message.receiptHandle))) :
    s'.Accounted settings id := by
  have shape := sorted.shape settings (List.mem_of_find?_eq_some found) draws
  refine accounted.goes goes ?_ ?_ ?_ (fun m member body => ?_) (shape.next id) handling_change
  · intro c next
    cases free.symm.trans next
  · rw [aws]
    cases queue <;> rfl
  · rw [aws]
    cases queue <;> rfl
  · rw [aws]
    cases queue with
    | provision =>
        rcases waiting_or_found found member with rfl | member
        · right
          obtain ⟨receipt, _⟩ := m
          obtain rfl := body
          rfl
        · exact .inl member
    | binding => exact .inl member

theorem System.Accounted.worked_elsewhere (accounted : s.Accounted settings id)
    (next : s.next (.handling receipt delivery) = some c) (node : HandlingNode settings c k)
    (elsewhere : ¬c.Matters settings id)
    (goes : s.Goes (.handling receipt delivery)
      (.handling message (k (perform receipt c s.aws).1)) s')
    (aws : s'.aws = (perform receipt c s.aws).2) : s'.Accounted settings id := by
  obtain ⟨row, artifact⟩ := perform_elsewhere receipt s.aws elsewhere
  refine accounted.goes goes ?_ (aws ▸ row) (aws ▸ artifact)
    (fun m member _ => .inl (aws ▸ provisionTasks_kept receipt c s.aws member))
    (handling_next node ?_) handling_change
  · intro c' next' marks
    obtain rfl := Option.some.inj (next.symm.trans next')
    exact elsewhere marks.matters
  · rintro rfl
    exact elsewhere rfl

theorem System.Accounted.artifact_deleted
    (goes : s.Goes (.handling receipt delivery) (.handling message rest) s')
    (deletes : rest.next = some (.deleteInstance id))
    (artifact : s'.aws.bucket (settings.artifactKey id) = none) : s'.Accounted settings id := by
  have halfway : s'.Halfway id := ⟨_, goes.next.trans deletes⟩
  exact System.accounted_iff.mpr ⟨fun _ => .inr halfway, fun _ => artifact,
    fun present => absurd artifact present⟩

theorem System.Accounted.row_deleted (accounted : s.Accounted settings id)
    (next : s.next (.handling receipt delivery) = some (.deleteInstance id))
    (row : s'.aws.instances id = none) (bucket : s'.aws.bucket = s.aws.bucket) :
    s'.Accounted settings id := by
  -- the same handling has deleted the artifact, and none was written since
  have artifact : s'.aws.bucket (settings.artifactKey id) = none :=
    bucket ▸ accounted.halfway ⟨_, next⟩
  exact ⟨fun present => absurd row present, fun _ => artifact,
    fun present => absurd artifact present⟩

theorem handling_excused (next : s.next (.handling receipt delivery) = some c)
    (goes : s.Goes (.handling receipt delivery) (.handling message rest) s')
    (sends : ∀ payload, c ≠ .sendMessage .provision payload)
    (deletes : c ≠ .deleteObject (settings.artifactKey id))
    (tasks : s'.aws.provisionTasks = s.aws.provisionTasks) (excused : s.Excused settings id) :
    s'.Excused settings id := by
  refine excused.goes goes handling_change (fun payload _ same => ?_) (fun same => ?_)
    fun m member _ => .inl (tasks ▸ member)
  · exact sends payload (Option.some.inj (next.symm.trans same))
  · exact deletes (Option.some.inj (next.symm.trans same))

theorem System.Accounted.artifact_written (accounted : s.Accounted settings id) {document : Value}
    {u : InstanceUpdate}
    (next : s.next (.handling receipt delivery) =
      some (.putObject (settings.artifactKey id) document))
    (goes : s.Goes (.handling receipt delivery) (.handling message rest) s')
    (updates : rest.next = some (.updateInstance id u)) (order : ¬s.Halfway id)
    (row : s'.aws.instances = s.aws.instances)
    (tasks : s'.aws.provisionTasks = s.aws.provisionTasks) : s'.Accounted settings id := by
  have order' : ¬s'.Halfway id := by
    intro halfway
    refine order (halfway.of_goes goes fun same => ?_)
    cases updates.symm.trans same
  -- what accounts for the row accounts for the artifact; without a row, this handling does
  cases absent : s.aws.instances id with
  | none =>
      have publishing : s'.Publishing id := ⟨receipt, delivery, u, goes.next.trans updates⟩
      have absent' : s'.aws.instances id = none := row ▸ absent
      exact System.accounted_iff.mpr ⟨fun present => absurd absent' present,
        fun halfway => absurd halfway order', fun _ => .inr ⟨absent', publishing⟩⟩
  | some item =>
      have present : s.aws.instances id ≠ none := by simp [absent]
      have excused := ((System.accounted_iff.mp accounted).1 present).resolve_right order
      exact .of_excused (handling_excused next goes (by simp) (by simp) tasks excused)
        fun halfway => absurd halfway order'

theorem System.Accounted.row_updated (accounted : s.Accounted settings id) {u : InstanceUpdate}
    (next : s.next (.handling receipt delivery) = some (.updateInstance id u))
    (goes : s.Goes (.handling receipt delivery) (.handling message rest) s')
    (kept : rest.next ≠ some (.deleteInstance id)) (order : s.aws.instances id ≠ none)
    (bucket : s'.aws.bucket = s.aws.bucket)
    (tasks : s'.aws.provisionTasks = s.aws.provisionTasks) : s'.Accounted settings id := by
  obtain ⟨rows, halfway, artifacts⟩ := System.accounted_iff.mp accounted
  have excused (excused : s.Excused settings id) : s'.Excused settings id :=
    handling_excused next goes (by simp) (by simp) tasks excused
  refine System.accounted_iff.mpr ⟨fun _ => ?_, fun between => ?_, fun present => ?_⟩
  · rcases rows order with h | h
    · exact .inl (excused h)
    · refine .inr (h.goes goes fun same => ?_)
      cases next.symm.trans same
  · rw [bucket]
    exact halfway (between.of_goes goes kept)
  · rcases artifacts (bucket ▸ present) with h | ⟨absent, -⟩
    · exact .inl (excused h)
    · exact absurd absent order

theorem System.Accounted.worked (accounted : s.Accounted settings id)
    (next : s.next (.handling receipt delivery) = some c) (node : HandlingNode settings c k)
    (order : s.InOrder settings id (some c))
    (goes : s.Goes (.handling receipt delivery)
      (.handling message (k (perform receipt c s.aws).1)) s')
    (aws : s'.aws = (perform receipt c s.aws).2) : s'.Accounted settings id := by
  by_cases matters : c.Matters settings id
  · cases c with
    | updateInstance id' u =>
        obtain rfl : id' = id := matters
        exact accounted.row_updated next goes (node _ _) (order rfl) (by rw [aws]; rfl)
          (by rw [aws]; rfl)
    | deleteInstance id' =>
        obtain rfl : id' = id := matters
        exact accounted.row_deleted next (by rw [aws]; exact update_self _ _ _) (by rw [aws]; rfl)
    | putObject key document =>
        obtain rfl : key = settings.artifactKey id := matters
        obtain ⟨id', u, same, updates⟩ := node
        obtain rfl := settings.artifactKey_injective same
        exact accounted.artifact_written next goes updates (order rfl) (by rw [aws]; rfl)
          (by rw [aws]; rfl)
    | deleteObject key =>
        obtain rfl : key = settings.artifactKey id := matters
        obtain ⟨id', same, deletes⟩ := node
        obtain rfl := settings.artifactKey_injective same
        exact .artifact_deleted goes deletes (by rw [aws]; exact update_self _ _ _)
    | putInstance => exact node.elim
    | sendMessage => exact node.elim
    | _ => exact matters.elim
  · exact accounted.worked_elsewhere next node matters goes aws

end Handlings

/-! ## Runs -/

def System.Orderly (settings : Settings) (id : String) (s : System) : Action → Prop
  | .call (.handling receipt delivery) _ =>
      s.InOrder settings id (s.next (.handling receipt delivery))
  | _ => True

def Call.deletesRow (id : String) : Call → Bool
  | .deleteInstance id' => id' = id
  | _ => false

theorem System.halfway_iff : s.Halfway id ↔
    ∃ name ∈ s.threads.keys, (s.next name).any (Call.deletesRow id) = true := by
  constructor
  · rintro ⟨name, next⟩
    refine ⟨name, Finmap.mem_keys.mpr ?_, by simp [next, Call.deletesRow]⟩
    by_contra free
    cases (System.next_of_not_mem free).symm.trans next
  · rintro ⟨name, -, deletes⟩
    cases next : s.next name with
    | none => simp [next] at deletes
    | some c =>
        cases c <;> simp [next, Call.deletesRow] at deletes
        exact ⟨name, deletes ▸ next⟩

instance System.Halfway.decidable (s : System) (id : String) : Decidable (s.Halfway id) :=
  decidable_of_iff' _ System.halfway_iff

instance System.InOrder.decidable (settings : Settings) (id : String) (s : System) :
    DecidablePred (s.InOrder settings id)
  | none => .isTrue trivial
  | some (.updateInstance id' _) =>
      inferInstanceAs (Decidable (id' = id → s.aws.instances id ≠ none))
  | some (.putObject key _) =>
      inferInstanceAs (Decidable (key = settings.artifactKey id → ¬s.Halfway id))
  | some (.getInstance _) | some (.putInstance _ _) | some (.deleteInstance _)
  | some (.getBinding _ _) | some (.putBinding _ _ _) | some (.updateBinding _ _ _)
  | some (.deleteBinding _ _) | some (.deleteObject _) | some (.sendMessage _ _)
  | some (.deleteMessage _ _) => .isTrue trivial

instance System.Orderly.decidable (settings : Settings) (id : String) (s : System) :
    DecidablePred (s.Orderly settings id)
  | .start _ _ _ => .isTrue trivial
  | .receive _ _ _ _ => .isTrue trivial
  | .again _ _ _ _ => .isTrue trivial
  | .call (.request _) _ => .isTrue trivial
  | .call (.handling receipt delivery) _ =>
      inferInstanceAs (Decidable (s.InOrder settings id (s.next (.handling receipt delivery))))

theorem System.Accounted.moved {i : Action} (accounted : s.Accounted settings id)
    (shaped : s.Shaped settings) (attributed : s.Attributed settings)
    (moved : s.Moved settings i s') (orderly : s.Orderly settings id i) :
    s'.Accounted settings id := by
  cases moved with
  | idle => exact accounted
  | started free goes aws => exact accounted.started free goes aws
  | received free found goes aws => exact accounted.received shaped.sorted free found goes aws
  | requested looked goes aws =>
      have concerns := attributed.threads _ _ looked
      cases shaped.threads _ _ looked with
      | request calls every =>
          refine accounted.requested (System.next_of_lookup looked) every ?_ goes aws
          rw [concerns.1]
          exact concerns.2
  | worked looked goes aws =>
      have next := System.next_of_lookup looked
      rw [System.Orderly, next] at orderly
      cases shaped.threads _ _ looked with
      | handling every => exact accounted.worked next every.1 orderly goes aws

theorem System.Accounted.init (settings : Settings) (id : String) :
    System.Accounted settings id ⟨.empty, ∅, [], []⟩ :=
  ⟨fun present => absurd rfl present, fun _ => rfl, fun present => absurd rfl present⟩

theorem System.Shaped.init (settings : Settings) : System.Shaped settings ⟨.empty, ∅, [], []⟩ :=
  ⟨fun _ _ looked => by simp at looked, Aws.Sorted.init⟩

theorem accounted_after {actions : List Action} (faultless : ∀ i ∈ actions, i.Faultless)
    (orderly : Machine.Along (System.step settings) (System.Orderly settings id)
      ⟨.empty, ∅, [], []⟩ actions) :
    let s := System.after settings .empty actions
    s.Shaped settings ∧ s.Attributed settings ∧ s.Accounted settings id := by
  refine Machine.exec_invariant
    (I := fun s : System => s.Shaped settings ∧ s.Attributed settings ∧ s.Accounted settings id)
    (System.step settings) ?_
    ⟨.init settings, .init settings ⟨rfl, rfl⟩, .init settings id⟩
    (Machine.Along.and_forall _ orderly faultless)
  rintro s i ⟨shaped, attributed, accounted⟩ ⟨orderly, faultless⟩
  have moved := step_moved shaped faultless
  exact ⟨shaped.moved moved, attributed.step i, accounted.moved shaped attributed moved orderly⟩

structure System.Settled (s : System) (id : String) : Prop where
  waiting : ∀ m ∈ s.aws.provisionTasks, ¬m.About id
  handled : ∀ receipt delivery, receipt.subject = id → .handling receipt delivery ∉ s.threads

theorem System.Settled.handling (settled : s.Settled id) (attributed : s.Attributed settings)
    (c : Call) (about : c.Concerns settings id) (receipt : ExecutionName) (delivery : Nat) :
    s.next (.handling receipt delivery) ≠ some c := by
  intro next
  cases looked : s.threads.lookup (.handling receipt delivery) with
  | none => simp [System.next, looked] at next
  | some thread =>
      rw [System.next_of_lookup looked] at next
      have subject : receipt.subject = id :=
        ((attributed.threads _ thread looked).next next).unique about
      refine settled.handled receipt delivery subject ?_
      rw [Finmap.mem_iff, looked]
      exact ⟨thread, rfl⟩

theorem System.Settled.worker (settled : s.Settled id) (shaped : s.Shaped settings)
    (attributed : s.Attributed settings) (c : Call) (about : c.Concerns settings id)
    (worker : ∀ (asked : Request) (k), ¬asked.Node c k) (name : ThreadName) :
    s.next name ≠ some c := by
  intro next
  cases looked : s.threads.lookup name with
  | none => simp [System.next, looked] at next
  | some thread =>
      cases shaped.threads name thread looked with
      | request calls every =>
          obtain rfl := Option.some.inj ((System.next_of_lookup looked).symm.trans next)
          exact worker _ _ every.1
      | handling => exact settled.handling attributed c about _ _ next

theorem System.Settled.not_pending (settled : s.Settled id) (shaped : s.Shaped settings)
    (attributed : s.Attributed settings) : ¬s.Pending settings id := by
  rintro (⟨m, member, body⟩ | ⟨name, next⟩)
  · refine settled.waiting m member ?_
    simp [Message.About, Message.payload, body, Payload.deprovision]
  · exact settled.worker shaped attributed (.deleteObject _) rfl (fun _ _ => not_false) name next

/-- In every run without faults whose handlings keep the order, an instance whose newest accepted
change is a DELETE has neither row nor artifact once its messages have been handled, unless another
request has just written the row. -/
theorem deprovision_final (settings : Settings) (id : String) (actions : List Action)
    (faultless : ∀ i ∈ actions, i.Faultless)
    (orderly : Machine.Along (System.step settings) (System.Orderly settings id)
      ⟨.empty, ∅, [], []⟩ actions)
    (deleted : (System.after settings .empty actions).latest id = some .deprovision)
    (settled : (System.after settings .empty actions).Settled id)
    (sent : ¬(System.after settings .empty actions).Sending id) :
    (System.after settings .empty actions).aws.instances id = none ∧
      (System.after settings .empty actions).aws.bucket (settings.artifactKey id) = none := by
  obtain ⟨shaped, attributed, accounted⟩ := accounted_after faultless orderly
  obtain ⟨rows, -, artifacts⟩ := System.accounted_iff.mp accounted
  have alone : ¬(System.after settings .empty actions).Excused settings id := by
    rintro (renewed | sending | pending)
    · simp [System.Renewed, deleted] at renewed
    · exact sent sending
    · exact settled.not_pending shaped attributed pending
  have row : (System.after settings .empty actions).aws.instances id = none := by
    by_contra present
    obtain ⟨name, next⟩ := (rows present).resolve_left alone
    exact settled.worker shaped attributed (.deleteInstance id) rfl (fun _ _ => not_false) name next
  refine ⟨row, ?_⟩
  by_contra present
  obtain ⟨-, receipt, delivery, u, next⟩ := (artifacts present).resolve_left alone
  exact settled.handling attributed (.updateInstance id u) rfl receipt delivery next

def overlapping : List Action :=
  let put : ThreadName := .request ⟨"a", 0⟩
  let delete : ThreadName := .request ⟨"a", 1⟩
  let provision : ThreadName := .handling ⟨"a", 0⟩ 0
  let deprovision : ThreadName := .handling ⟨"a", 1⟩ 0
  let calls (names : List ThreadName) : List Action := names.map (.call · .ok)
  .start (.provision "a" ⟨"s", "p", ∅, ∅⟩ true) 0 "now" :: calls [put, put, put] ++
  .receive .provision ⟨"a", 0⟩ 0 ⟨"now", "token"⟩ :: calls [provision] ++
  .start (.deprovision "a" "s" "p" true) 1 "now" ::
    calls [delete, provision, delete, delete, provision] ++
  .receive .provision ⟨"a", 1⟩ 0 ⟨"now", "token"⟩ :: calls [deprovision, deprovision, deprovision]

theorem overlapping_deprovision_final :
    (System.after {} .empty overlapping).aws.instances "a" = none ∧
      (System.after {} .empty overlapping).aws.bucket "envoy-resources/a.yaml" = none := by
  have idle : (System.after {} .empty overlapping).threads.keys = ∅ := by decide
  have free (name : ThreadName) : name ∉ (System.after {} .empty overlapping).threads := by
    simp [← Finmap.mem_keys, idle]
  refine deprovision_final {} "a" overlapping (by decide) (by decide) (by decide)
    ⟨by decide, fun _ _ _ => free _⟩ ?_
  rintro ⟨self, payload, -, next⟩
  cases (System.next_of_not_mem (free _)).symm.trans next

def deprovisionFirst : List Action :=
  let put : ThreadName := .request ⟨"a", 0⟩
  let delete : ThreadName := .request ⟨"a", 1⟩
  let provision : ThreadName := .handling ⟨"a", 0⟩ 0
  let deprovision : ThreadName := .handling ⟨"a", 1⟩ 0
  let calls (names : List ThreadName) : List Action := names.map (.call · .ok)
  .start (.provision "a" ⟨"s", "p", ∅, ∅⟩ true) 0 "now" :: calls [put, put, put] ++
  .start (.deprovision "a" "s" "p" true) 1 "now" :: calls [delete, delete, delete] ++
  .receive .provision ⟨"a", 1⟩ 0 ⟨"now", "token"⟩ ::
    calls [deprovision, deprovision, deprovision] ++
  .receive .provision ⟨"a", 0⟩ 0 ⟨"now", "token"⟩ :: calls [provision, provision, provision]

theorem deprovision_not_always_final :
    ¬∀ settings id actions, (∀ i ∈ actions, i.Faultless) →
      (System.after settings .empty actions).latest id = some .deprovision →
      (System.after settings .empty actions).Settled id →
      (System.after settings .empty actions).aws.instances id = none ∧
        (System.after settings .empty actions).aws.bucket (settings.artifactKey id) = none := by
  intro always
  have idle : (System.after {} .empty deprovisionFirst).threads.keys = ∅ := by decide
  have free (name : ThreadName) : name ∉ (System.after {} .empty deprovisionFirst).threads := by
    simp [← Finmap.mem_keys, idle]
  have gone := (always {} "a" deprovisionFirst (by decide) (by decide)
    ⟨by decide, fun _ _ _ => free _⟩).1
  revert gone
  decide

end Regnant.Osb
