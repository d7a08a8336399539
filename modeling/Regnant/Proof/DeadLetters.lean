import Regnant.Osb.Redrive
import Regnant.Proof.Convergence
import Regnant.Proof.LastOperation

/-!
# Dead letters

A message that does not render is never handled, and nothing is written about it. When it is moved
to the dead-letter queue, its instance stays in progress with nobody working on it unless another
message of the instance waits.
-/

namespace Regnant.Osb

namespace Redriven

/-- Every instance whose last operation is in progress has a message on the provision queue. -/
def Attended (s : Redriven) : Prop :=
  ∀ id, s.broker.aws.Reports id .inProgress → ∃ m ∈ s.messages, m.about = some id

/-- A message that does not render is moved to the dead-letter queue while its instance is in
progress and no other message is about it. -/
def Abandons (maxReceiveCount : Nat) (s : Redriven) : Receipt → Prop
  | .first _ => False
  | .again k _ => ∃ r p id, s.returned[k]? = some r ∧ maxReceiveCount ≤ r.receiveCount ∧
      r.message.payload = some p ∧ p.instanceId = some id ∧ ¬p.Renders ∧
      s.broker.aws.Reports id .inProgress ∧
      ∀ m ∈ s.broker.aws.provisionTasks ++ (s.returned.eraseIdx k).map Returned.message,
        m.about ≠ some id

end Redriven

variable {settings : Settings} {receipt : ExecutionName} {now id : String} {w w' : Aws}
  {payload p : Payload} {waiting : List Payload} {v v' : View} {s : Redriven}

/-! ## Instances that are created once -/

structure View.Fresh (v : View) : Prop where
  unused : creation v.accepted = none → v.row = none ∧ v.tasks = []
  first : ∀ p ∈ v.tasks.tail, p.op ≠ some .provision
  present : ∀ p ∈ v.tasks.head?, p.op = some .provision → v.row ≠ none
  complete : ∀ item ∈ v.row, item.Complete

theorem View.Fresh.queued {item item' : InstanceItem} {a : Accepted} (fresh : v.Fresh)
    (row : v.row = some item) (complete : item'.Complete) (later : p.op ≠ some .provision) :
    View.Fresh { v with
      row := some item', tasks := v.tasks ++ [p], accepted := v.accepted ++ [a] } := by
  constructor
  · intro none
    rw [creation_concat, Option.or_eq_none_iff] at none
    cases (fresh.unused none.1).1.symm.trans row
  · intro q member
    cases tasks : v.tasks with
    | nil => simp [tasks] at member
    | cons head rest =>
        rw [tasks] at member
        rcases List.mem_append.mp member with member | member
        · exact fresh.first q (tasks ▸ member)
        · exact List.mem_singleton.mp member ▸ later
  · simp
  · intro item'' written
    exact Option.mem_some_iff.mp written ▸ complete

theorem View.Fresh.handled {row : Option InstanceItem} {artifact : Option Value}
    (fresh : v.Fresh) (tasks : v.tasks = p :: waiting) (complete : ∀ item ∈ row, item.Complete) :
    View.Fresh { v with row, artifact, tasks := waiting } := by
  have later : ∀ q ∈ waiting, q.op ≠ some .provision := by
    intro q member
    exact fresh.first q (by rwa [tasks])
  constructor
  · intro none
    cases (fresh.unused none).2.symm.trans tasks
  · exact fun q member => later q (List.mem_of_mem_tail member)
  · intro q head provision
    exact absurd provision (later q (List.mem_of_mem_head? head))
  · exact complete

theorem fresh_step {b : Broker} {i : Step} (fresh : (b.view settings id).Fresh)
    (step : Local settings id b i v')
    (once : (v'.accepted.filterMap Accepted.creation).length ≤ 1) : v'.Fresh := by
  cases step with
  | created absent =>
      obtain ⟨row, tasks⟩ := fresh.unused (creation_none_of_once once)
      rw [tasks, List.nil_append]
      refine ⟨fun none => ?_, by simp, by simp, ?_⟩
      · simp [creation_concat, Accepted.creation] at none
      · intro item written
        exact Option.mem_some_iff.mp written ▸ .newItem _ _ _ _ _
  | matched present =>
      refine ⟨fun none => ?_, fresh.first, fresh.present, fresh.complete⟩
      rw [creation_concat, Option.or_eq_none_iff] at none
      exact fresh.unused none.1
  | updateQueued present read =>
      exact fresh.queued present ((fresh.complete _ present).apply _) (by simp [Payload.update])
  | deprovisionQueued present read =>
      exact fresh.queued present ((fresh.complete _ present).apply _)
        (by simp [Payload.deprovision])
  | @provisioned _ _ payload _ _ _ head tasks rendered =>
      refine fresh.handled tasks fun item written => ?_
      have present := fresh.present (.provision id payload) (by simp [tasks]) rfl
      obtain ⟨before, row⟩ := Option.ne_none_iff_exists'.mp present
      rw [row, Option.getD_some] at written
      exact Option.mem_some_iff.mp written ▸ (fresh.complete _ row).apply _
  | updated tasks present read rendered =>
      refine fresh.handled tasks fun item written => ?_
      exact Option.mem_some_iff.mp written ▸ (fresh.complete _ present).apply _
  | deprovisioned tasks => exact fresh.handled tasks (by simp)
  | provisionFailed tasks fails => exact fresh.handled tasks fresh.complete
  | updateFailed tasks present fails => exact fresh.handled tasks fresh.complete
  | updateUnreadable tasks present unreadable => exact fresh.handled tasks fresh.complete
  | updateMissed tasks absent => exact fresh.handled tasks fresh.complete

def Aws.Readable (w : Aws) : Prop :=
  ∀ id, ∀ item ∈ w.instances id, ∃ inst, instanceFromItem id item = .ok inst

theorem not_reports_of_row {state : OperationState} (item : InstanceItem)
    (row : w.instances id = some item) (available : item.state = some .available)
    (other : state ≠ .succeeded) : ¬w.Reports id state := by
  intro reports
  obtain ⟨item', inst, row', read, reported⟩ := reports_iff.mp reports
  obtain rfl := Option.some.inj (row.symm.trans row')
  have written : item.state = some inst.state := (instanceFromItem_ok read).2.2.1
  obtain same : inst.state = .available := Option.some.inj (written.symm.trans available)
  exact other (by rw [← reported, same]; rfl)

theorem not_reports_of_absent {state : OperationState} (absent : w.instances id = none) :
    ¬w.Reports id state := by
  intro reports
  obtain ⟨item, inst, row, -⟩ := reports_iff.mp reports
  cases absent.symm.trans row

theorem Handled.settles (handled : Handled settings now receipt w payload w')
    (readable : w.Readable) :
    (w' = w ∧ ¬payload.Renders) ∨ w.deleted.length < w'.deleted.length ∧
      ∀ id, payload.instanceId = some id → ¬w'.Reports id .inProgress := by
  cases handled with
  | @provisioned id request document rendered =>
      refine .inr ⟨by simp [Aws.acknowledged, Aws.published], fun id' own => ?_⟩
      obtain rfl : id = id' := by simpa [Payload.provision] using own
      exact not_reports_of_row _ (Function.update_self _ _ _) rfl (by simp)
  | provisionFailed fails => exact .inl ⟨rfl, fun renders => fails (renders _ rfl _ rfl _ rfl)⟩
  | @updated id service plan parameters item inst document present read rendered =>
      refine .inr ⟨by simp [Aws.acknowledged, Aws.published], fun id' own => ?_⟩
      obtain rfl : id = id' := by simpa [Payload.update] using own
      exact not_reports_of_row _ (Function.update_self _ _ _) rfl (by simp)
  | updateFailed present fails => exact .inl ⟨rfl, fun renders => fails (renders _ rfl _ rfl _ rfl)⟩
  | updateUnreadable present unreadable =>
      obtain ⟨inst, read⟩ := readable _ _ present
      cases read.symm.trans unreadable
  | @updateMissed id service plan parameters absent =>
      refine .inr ⟨by simp [Aws.acknowledged], fun id' own => ?_⟩
      obtain rfl : id = id' := by simpa [Payload.update] using own
      exact not_reports_of_absent absent
  | @deprovisioned id =>
      refine .inr ⟨by simp [Aws.acknowledged, Aws.removed], fun id' own => ?_⟩
      obtain rfl : id = id' := by simpa [Payload.deprovision] using own
      exact not_reports_of_absent (Function.update_self _ _ _)

theorem Handled.sorted (handled : Handled settings now receipt w payload w') (sorted : w.Sorted) :
    w'.Sorted := by
  cases handled <;> exact ⟨sorted.provision, sorted.binding⟩

theorem Handled.same_of_fails (handled : Handled settings now receipt w payload w')
    (fails : ¬payload.Renders) : w.SameInstances w' := by
  cases handled with
  | provisioned rendered =>
      refine absurd ?_ fails
      simpa [Payload.Renders, Payload.provision] using renders_iff.mpr ⟨_, rendered⟩
  | updated present read rendered =>
      refine absurd ?_ fails
      simpa [Payload.Renders, Payload.update] using renders_iff.mpr ⟨_, rendered⟩
  | deprovisioned => exact absurd (by simp [Payload.Renders, Payload.deprovision]) fails
  | _ => exact ⟨rfl, rfl, rfl⟩

structure Redriven.Sound (settings : Settings) (s : Redriven) : Prop where
  sorted : s.broker.aws.Sorted
  fresh : ∀ id, (s.broker.view settings id).Fresh
  returned : ∀ r ∈ s.returned, ∃ p, r.message.body = .object p ∧ p.IsInstanceTask ∧ ¬p.Renders

theorem Redriven.Sound.readable (sound : s.Sound settings) : s.broker.aws.Readable :=
  fun id item row => ((sound.fresh id).complete item row).read id

theorem mem_returning {message : Message} {n : Nat} {r : Returned} :
    r ∈ Redriven.returning w w' message n ↔
      r = ⟨message, n⟩ ∧ ¬w.deleted.length < w'.deleted.length := by
  unfold Redriven.returning
  split <;> simp [*]

inductive Redriven.Stepped (settings : Settings) (maxReceiveCount : Nat) (s : Redriven) :
    Receipt → Redriven → Prop where
  | idle {k draws} (missing : s.returned[k]? = none) :
      Stepped settings maxReceiveCount s (.again k draws) s
  | stepped {i b} (transition : Transition settings s.broker i b) (sorted : b.aws.Sorted)
      (quiet : ∀ draws, i = .work .provision draws → b = s.broker) :
      Stepped settings maxReceiveCount s (.first i) { s with broker := b }
  | received {draws receipt p rest w'}
      (head : s.broker.aws.provisionTasks = ⟨receipt, .object p⟩ :: rest)
      (handled : Handled settings draws.now receipt { s.broker.aws with provisionTasks := rest } p
        w') :
      Stepped settings maxReceiveCount s (.first (.work .provision draws))
        { s with
          broker := ⟨w', s.broker.history ++
            [.handled s.broker.aws .provision ⟨receipt, .object p⟩]⟩
          returned := s.returned ++ returning s.broker.aws w' ⟨receipt, .object p⟩ 1 }
  | again {k draws receipt p n w'} (found : s.returned[k]? = some ⟨⟨receipt, .object p⟩, n⟩)
      (few : n < maxReceiveCount) (fails : ¬p.Renders)
      (handled : Handled settings draws.now receipt s.broker.aws p w') :
      Stepped settings maxReceiveCount s (.again k draws)
        { s with
          broker := ⟨w', s.broker.history ++
            [.handled s.broker.aws .provision ⟨receipt, .object p⟩]⟩
          returned := s.returned.eraseIdx k ++
            returning s.broker.aws w' ⟨receipt, .object p⟩ (n + 1) }
  | moved {k draws r p} (found : s.returned[k]? = some r) (body : r.message.body = .object p)
      (fails : ¬p.Renders) (spent : maxReceiveCount ≤ r.receiveCount) :
      Stepped settings maxReceiveCount s (.again k draws)
        { s with
          returned := s.returned.eraseIdx k, deadLetters := s.deadLetters ++ [r.message] }

theorem stepped (maxReceiveCount : Nat) (sound : s.Sound settings) (i : Receipt) :
    s.Stepped settings maxReceiveCount i (s.step settings maxReceiveCount i) := by
  cases i with
  | first i =>
      have transition : Transition settings s.broker i (s.broker.step settings i) :=
        step_transition sound.sorted i
      have sorted : (s.broker.step settings i).aws.Sorted := sound.sorted.step i
      cases i with
      | request request serial now =>
          exact .stepped transition sorted (by simp)
      | work queue draws =>
          cases queue with
          | binding => exact .stepped transition sorted (by simp)
          | provision =>
              cases tasks : s.broker.aws.provisionTasks with
              | nil =>
                  simp only [Redriven.step, tasks]
                  refine .stepped transition sorted fun _ _ => ?_
                  simp [Broker.step, Aws.tasks, tasks]
              | cons m rest =>
                  simp only [Redriven.step, tasks]
                  generalize s.broker.step settings (.work .provision draws) = b at transition ⊢
                  cases transition with
                  | handled head handled =>
                      obtain ⟨rfl, rfl⟩ := List.cons.inj (tasks.symm.trans head)
                      exact .received head handled
                  | idle empty => simp [Aws.tasks, tasks] at empty
  | again k draws =>
      simp only [Redriven.step]
      cases found : s.returned[k]? with
      | none => exact .idle found
      | some r =>
          obtain ⟨p, body, task, fails⟩ := sound.returned r (List.mem_of_getElem? found)
          obtain ⟨⟨receipt, _⟩, n⟩ := r
          cases body
          dsimp only
          split
          next few => exact .again found few fails (handled task)
          next spent => exact .moved found rfl fails (Nat.not_lt.mp spent)

/-! ## The invariants -/

theorem Redriven.Sound.step {maxReceiveCount : Nat} {s' : Redriven} {i : Receipt}
    (sound : s.Sound settings) (stepped : s.Stepped settings maxReceiveCount i s')
    (once : ∀ id, ((s'.broker.accepted id).filterMap Accepted.creation).length ≤ 1) :
    s'.Sound settings := by
  have fresh {i : Step} {b : Broker} (transition : Transition settings s.broker i b)
      (once : ∀ id, ((b.accepted id).filterMap Accepted.creation).length ≤ 1) (id : String) :
      (b.view settings id).Fresh := by
    rcases transition_local settings id transition with same | seen
    · exact same ▸ sound.fresh id
    · exact fresh_step (sound.fresh id) seen (once id)
  cases stepped with
  | idle => exact sound
  | stepped transition sorted quiet => exact ⟨sorted, fresh transition once, sound.returned⟩
  | @received draws receipt p rest w' head handled =>
      have sorted : ({ s.broker.aws with provisionTasks := rest } : Aws).Sorted := by
        refine ⟨fun m member => sound.sorted.provision m ?_, sound.sorted.binding⟩
        rw [head]
        exact List.mem_cons_of_mem _ member
      refine ⟨handled.sorted sorted, fresh (.handled head handled) once, fun r member => ?_⟩
      rcases List.mem_append.mp member with member | member
      · exact sound.returned r member
      · obtain ⟨rfl, kept⟩ := mem_returning.mp member
        obtain ⟨-, fails⟩ | ⟨left, -⟩ := handled.settles sound.readable
        · obtain ⟨p', body, task⟩ := sound.sorted.provision ⟨receipt, .object p⟩ (by simp [head])
          cases body
          exact ⟨p, rfl, task, fails⟩
        · exact absurd left kept
  | @again k draws receipt p n w' found few fails handled =>
      refine ⟨handled.sorted sound.sorted, fun id => ?_, fun r member => ?_⟩
      · rw [view_same (handled.same_of_fails fails) rfl]
        exact sound.fresh id
      · rcases List.mem_append.mp member with member | member
        · exact sound.returned r (List.mem_of_mem_eraseIdx member)
        · obtain ⟨rfl, -⟩ := mem_returning.mp member
          obtain ⟨p', body, task, fails⟩ := sound.returned _ (List.mem_of_getElem? found)
          exact ⟨p', body, task, fails⟩
  | moved found body fails spent =>
      exact ⟨sound.sorted, sound.fresh, fun r member =>
        sound.returned r (List.mem_of_mem_eraseIdx member)⟩

theorem reports_congr {state : OperationState} (row : w'.instances id = w.instances id) :
    w'.Reports id state ↔ w.Reports id state := by
  rw [reports_iff, reports_iff, row]

theorem tasksAbout_ne_nil : w.tasksAbout id ≠ [] ↔ ∃ m ∈ w.provisionTasks, m.about = some id := by
  simp only [Aws.tasksAbout, Aws.payloads, ne_eq, List.filter_eq_nil_iff, List.mem_filterMap,
    decide_eq_true_eq, Message.about, Option.bind_eq_some_iff, not_forall, not_not]
  constructor
  · rintro ⟨p, ⟨m, member, payload⟩, own⟩
    exact ⟨m, member, p, payload, own⟩
  · rintro ⟨m, member, p, payload, own⟩
    exact ⟨p, ⟨m, member, payload⟩, own⟩

theorem attended_iff : s.Attended ↔ ∀ id, s.broker.aws.Reports id .inProgress →
    s.broker.aws.tasksAbout id ≠ [] ∨ ∃ r ∈ s.returned, r.message.about = some id := by
  refine forall_congr' fun id => imp_congr_right fun _ => ?_
  rw [tasksAbout_ne_nil]
  simp [Redriven.messages, or_and_right, exists_or]

theorem Local.attends {b : Broker} {i : Step} (step : Local settings id b i v') :
    (∃ draws, i = .work .provision draws) ∨ v'.tasks ≠ [] ∨
      v'.row = (b.view settings id).row ∧ v'.tasks = (b.view settings id).tasks := by
  cases step with
  | created => simp
  | matched => simp
  | updateQueued => simp
  | deprovisionQueued => simp
  | _ => exact .inl ⟨_, rfl⟩

theorem mem_erased {k : Nat} {r r' : Returned} {returned : List Returned}
    (found : returned[k]? = some r) (member : r' ∈ returned) :
    r' = r ∨ r' ∈ returned.eraseIdx k := by
  obtain ⟨j, found'⟩ := List.mem_iff_getElem?.mp member
  by_cases same : j = k
  · subst same
    exact .inl (Option.some.inj (found'.symm.trans found))
  · exact .inr (List.mem_eraseIdx_iff_getElem?.mpr ⟨j, same, found'⟩)

theorem attended_stepped {i : Step} {b : Broker} (attended : s.Attended)
    (transition : Transition settings s.broker i b)
    (quiet : ∀ draws, i = .work .provision draws → b = s.broker) :
    Redriven.Attended { s with broker := b } := by
  rw [attended_iff] at attended ⊢
  intro id reports
  have unseen (row : b.aws.instances id = s.broker.aws.instances id)
      (tasks : b.aws.tasksAbout id = s.broker.aws.tasksAbout id) :
      b.aws.tasksAbout id ≠ [] ∨ ∃ r ∈ s.returned, r.message.about = some id := by
    rw [tasks]
    exact attended id ((reports_congr row).mp reports)
  rcases transition_local settings id transition with same | seen
  · exact unseen (congrArg View.row same) (congrArg View.tasks same)
  · obtain ⟨draws, work⟩ | queued | ⟨row, tasks⟩ := seen.attends
    · rw [quiet draws work] at reports ⊢
      exact attended id reports
    · exact .inl queued
    · exact unseen row tasks

theorem attended_received {draws : Draws} {rest : List Message} (sound : s.Sound settings)
    (attended : s.Attended) (head : s.broker.aws.provisionTasks = ⟨receipt, .object p⟩ :: rest)
    (handled : Handled settings draws.now receipt { s.broker.aws with provisionTasks := rest } p w')
    (history : List Event) :
    Redriven.Attended { s with
      broker := ⟨w', history⟩
      returned := s.returned ++
        Redriven.returning s.broker.aws w' ⟨receipt, .object p⟩ 1 } := by
  rw [attended_iff] at attended ⊢
  intro id reports
  by_cases own : p.instanceId = some id
  · right
    obtain ⟨same, -⟩ | ⟨-, settled⟩ := handled.settles sound.readable
    · refine ⟨⟨⟨receipt, .object p⟩, 1⟩, List.mem_append_right _ (mem_returning.mpr ⟨rfl, ?_⟩), own⟩
      simp [same]
    · exact absurd reports (settled id own)
  · have tasks : w'.tasksAbout id = s.broker.aws.tasksAbout id := by
      rw [tasksAbout_cons_other own head]
      simp only [Aws.tasksAbout, Aws.payloads, handled.provisionTasks]
    have row : w'.instances id = s.broker.aws.instances id := (handled_other own handled).1
    rw [tasks]
    refine (attended id ((reports_congr row).mp reports)).imp_right ?_
    rintro ⟨r, member, about⟩
    exact ⟨r, List.mem_append_left _ member, about⟩

theorem attended_again {k n : Nat} {draws : Draws} (sound : s.Sound settings)
    (attended : s.Attended) (found : s.returned[k]? = some ⟨⟨receipt, .object p⟩, n⟩)
    (fails : ¬p.Renders) (handled : Handled settings draws.now receipt s.broker.aws p w')
    (history : List Event) :
    Redriven.Attended { s with
      broker := ⟨w', history⟩
      returned := s.returned.eraseIdx k ++
        Redriven.returning s.broker.aws w' ⟨receipt, .object p⟩ (n + 1) } := by
  rw [attended_iff] at attended ⊢
  intro id reports
  have same := handled.same_of_fails fails
  have tasks : w'.tasksAbout id = s.broker.aws.tasksAbout id := by
    simp only [Aws.tasksAbout, Aws.payloads, same.provisionTasks]
  rw [tasks]
  refine (attended id ((reports_congr (congrFun same.instances id)).mp reports)).imp_right ?_
  rintro ⟨r, member, about⟩
  rcases mem_erased found member with rfl | member
  · obtain ⟨kept, -⟩ | ⟨-, settled⟩ := handled.settles sound.readable
    · refine ⟨⟨⟨receipt, .object p⟩, n + 1⟩,
        List.mem_append_right _ (mem_returning.mpr ⟨rfl, ?_⟩), about⟩
      simp [kept]
    · exact absurd reports (settled id about)
  · exact ⟨r, List.mem_append_left _ member, about⟩

theorem attended_step {maxReceiveCount : Nat} {s' : Redriven} {i : Receipt}
    (sound : s.Sound settings) (attended : s.Attended)
    (stepped : s.Stepped settings maxReceiveCount i s') :
    s'.Attended ↔ ¬s.Abandons maxReceiveCount i := by
  cases stepped with
  | idle missing =>
      refine iff_of_true attended ?_
      rintro ⟨r, p, id, found, -⟩
      cases missing.symm.trans found
  | stepped transition sorted quiet =>
      exact iff_of_true (attended_stepped attended transition quiet) not_false
  | received head handled =>
      exact iff_of_true (attended_received sound attended head handled _) not_false
  | again found few fails handled =>
      refine iff_of_true (attended_again sound attended found fails handled _) ?_
      rintro ⟨r, p, id, found', spent, -⟩
      obtain rfl := Option.some.inj (found.symm.trans found')
      exact absurd spent (Nat.not_le.mpr few)
  | @moved k draws r p found body fails spent =>
      have payload : r.message.payload = some p := by rw [Message.payload, body]
      constructor
      · rintro attended' ⟨r', p', id, found', -, -, -, -, reports, alone⟩
        obtain ⟨m, member, about⟩ := attended' id reports
        exact alone m member about
      · intro kept id reports
        by_contra! alone
        obtain ⟨m, member, about⟩ := attended id reports
        refine kept ⟨r, p, id, found, spent, payload, ?_, fails, reports, alone⟩
        -- the message that was moved is the one about the instance
        rcases List.mem_append.mp member with member | member
        · exact absurd about (alone m (List.mem_append_left _ member))
        · obtain ⟨r', listed, rfl⟩ := List.mem_map.mp member
          rcases mem_erased found listed with rfl | listed
          · simpa [Message.about, payload] using about
          · exact absurd about (alone _ (List.mem_append_right _ (List.mem_map_of_mem listed)))

/-! ## Runs -/

theorem Redriven.history_grows (settings : Settings) (maxReceiveCount : Nat) (s : Redriven)
    (i : Receipt) :
    s.broker.history <+: (s.step settings maxReceiveCount i).broker.history := by
  cases i with
  | first i =>
      have grows := s.broker.history_grows settings i
      simp only [Redriven.step]
      split <;> exact grows
  | again k draws =>
      simp only [Redriven.step]
      cases s.returned[k]? with
      | none => exact List.prefix_refl _
      | some r =>
          dsimp only
          split
          next => exact List.prefix_append _ _
          next => exact List.prefix_refl _

/-- In a run in which no instance is created twice, no instance is left in progress without a
message exactly when no message that does not render is moved to the dead-letter queue as the last
one of an instance in progress. -/
theorem attended_iff_along (settings : Settings) (maxReceiveCount : Nat) (receipts : List Receipt)
    (once : (Redriven.after settings maxReceiveCount receipts).broker.created.Nodup) :
    (∀ before, before <+: receipts →
      (Redriven.after settings maxReceiveCount before).Attended) ↔
      Machine.Along (Redriven.step settings maxReceiveCount)
        (fun s i => ¬s.Abandons maxReceiveCount i) ⟨.init, [], []⟩ receipts := by
  have run := Machine.Along.of_final (Redriven.step settings maxReceiveCount)
    (P := fun s => s.broker.created.Nodup) (fun s i final => ?_) once
  · refine Machine.invariant_iff_along_of (I := Redriven.Attended)
      (J := Redriven.Sound settings) _ ?_ ?_ run.2 ⟨Aws.Sorted.init, fun id => ?_, by simp⟩ ?_
    · exact fun s i sound once => sound.step (stepped _ sound i) (created_once once)
    · exact fun s i sound _ attended => attended_step sound attended (stepped _ sound i)
    · exact ⟨fun _ => ⟨rfl, rfl⟩, fun p member => absurd member List.not_mem_nil,
        fun p head => (by cases head), fun item row => (by cases row)⟩
    · exact fun id reports => absurd reports (not_reports_of_absent rfl)
  · exact ((s.history_grows settings maxReceiveCount i).filterMap _).sublist.nodup final

def patchedInTime : List Receipt :=
  let create : Step := .request
    (.provision "a" ⟨"s", "p", ∅, Finmap.singleton "listen_port" (.str "abc")⟩ true) 0 "now"
  let patch : Step :=
    .request (.update "a" ⟨"s", none, Finmap.singleton "listen_port" (.int 80)⟩ true) 1 "now"
  let work : Step := .work .provision ⟨"now", "token"⟩
  [.first create, .first work, .first patch, .first work, .again 0 ⟨"later", "token"⟩]

theorem patched_attended : (Redriven.after {} 1 patchedInTime).Attended := by
  refine (attended_iff_along {} 1 patchedInTime (by decide)).mpr ?_ _ (List.prefix_refl _)
  refine ⟨not_false, not_false, not_false, not_false, ?_, trivial⟩
  rintro ⟨r, p, id, found, -, payload, own, -, reports, -⟩
  have about : (Redriven.after {} 1 (patchedInTime.take 4)).returned.map (·.message.about) =
      [some "a"] := by decide
  have state : ((Redriven.after {} 1 (patchedInTime.take 4)).broker.aws.instances "a").map
      (·.state) = some (some .available) := by decide
  obtain ⟨item, row, available⟩ := Option.map_eq_some_iff.mp state
  have same : id = "a" := by
    have listed : r ∈ (Redriven.after {} 1 (patchedInTime.take 4)).returned :=
      List.mem_of_getElem? found
    have member : r.message.about ∈ [some "a"] := about ▸ List.mem_map_of_mem listed
    rw [List.mem_singleton, Message.about, payload, Option.bind_some, own] at member
    exact Option.some.inj member
  subst same
  exact not_reports_of_row item row available (by simp) reports

def lostWork : List Receipt :=
  let create : Step := .request
    (.provision "a" ⟨"s", "p", ∅, Finmap.singleton "listen_port" (.str "abc")⟩ true) 0 "now"
  .first create :: .first (.work .provision ⟨"now", "token"⟩) ::
    List.replicate 5 (.again 0 ⟨"now", "token"⟩)

theorem not_always_attended :
    ¬∀ settings maxReceiveCount receipts,
      (Redriven.after settings maxReceiveCount receipts).broker.created.Nodup →
      (Redriven.after settings maxReceiveCount receipts).Attended := by
  intro always
  have reports : (Redriven.after {} 5 lostWork).broker.aws.Reports "a" .inProgress :=
    ⟨⟨"b", 0⟩, "now", some "queued", by decide⟩
  obtain ⟨m, member, -⟩ := always {} 5 lostWork (by decide) "a" reports
  have none : (Redriven.after {} 5 lostWork).messages = [] := by decide
  simp [none] at member

end Regnant.Osb
