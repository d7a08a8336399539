import Regnant.Proof.DeadLetters
import Regnant.Proof.Faults
import Regnant.Proof.Retry.Instances

namespace Regnant.Osb
open Function (update_of_ne)

inductive Turn where
  | request (request : Request) (serial : Nat) (now : String) (fault : Option Fault)
  | task (payload : { p : Payload // p.IsInstanceTask }) (receipt : ExecutionName) (draws : Draws)
      (fault : Option Fault)
  | bindingTask (payload : { p : Payload // p.IsBindingTask }) (receipt : ExecutionName)
      (draws : Draws) (fault : Option Fault)

def Aws.turn (settings : Settings) (w : Aws) : Turn → Aws
  | .request request serial now fault =>
      (w.answerWith fault ⟨request.instanceId, serial⟩ now request).2
  | .task payload receipt draws fault =>
      w.handleWith settings .provision draws fault ⟨receipt, .object payload⟩
  | .bindingTask payload receipt draws fault =>
      w.handleWith settings .binding draws fault ⟨receipt, .object payload⟩

/-- Every poll of the instance is answered, and answered with this state. -/
def Aws.Polled (w : Aws) (id : String) (state : OperationState) : Prop :=
  ∀ self now, ∃ description, (w.answer self now (.instanceLastOperation id)).1 =
    ⟨200, .lastOperation state description⟩

/-- The polls say in progress up to the turn `own` and succeeded from it on. -/
structure Aws.Monotone (settings : Settings) (w : Aws) (id : String) (during : List Turn)
    (own : Turn) (afterwards : List Turn) : Prop where
  inProgress : ∀ before, before <+: during →
    (Machine.exec (Aws.turn settings) w before).Polled id .inProgress
  succeeded : ∀ after, after <+: afterwards →
    (Machine.exec (Aws.turn settings) w (during ++ own :: after)).Polled id .succeeded

structure Aws.Queues (w : Aws) (sender : ExecutionName) (now : String) (request : Request)
    (payload : Payload) : Prop where
  accepted : (w.answer sender now request).1.accepted
  queued : ∃ receipt, (w.answer sender now request).2.provisionTasks =
    w.provisionTasks ++ [⟨receipt, .object payload⟩]

def Turn.AcceptedFor (id : String) (w : Aws) : Turn → Prop
  | .request asked serial now fault => asked.instanceId = id ∧ asked.MutatesInstance ∧
      (w.answerWith fault ⟨asked.instanceId, serial⟩ now asked).1.accepted
  | .task _ _ _ _ => False
  | .bindingTask _ _ _ _ => False

def Turn.Acknowledges (settings : Settings) (w : Aws) (turn : Turn) : Prop :=
  w.deleted.length < (w.turn settings turn).deleted.length
  deriving Decidable

/-- A message of the instance that renders is handled, up to the write of the row. -/
def Turn.Completes (id : String) : Turn → Prop
  | .task payload _ _ fault => payload.1.instanceId = some id ∧ payload.1.Renders ∧
      Spares fault (payload.1.artifactCall + 1)
  | _ => False

def Turn.Removes (id : String) : Turn → Prop
  | .task payload _ _ fault => payload.1.instanceId = some id ∧
      payload.1.op = some .deprovision ∧ Spares fault (payload.1.artifactCall + 1)
  | _ => False

def Request.Transitions : Request → Prop
  | .update _ _ _ => True
  | .deprovision _ _ _ _ => True
  | _ => False

/-- A PATCH or DELETE of the instance passes all checks and writes the row, so that nothing but a
fault can keep it from being accepted. -/
def Turn.Strands (id : String) (w : Aws) : Turn → Prop
  | .request asked serial now fault => asked.instanceId = id ∧ asked.Transitions ∧
      (w.answer ⟨asked.instanceId, serial⟩ now asked).1.accepted ∧ Spares fault 1
  | _ => False

variable {settings : Settings} {self receipt : ExecutionName} {now id : String} {w w' : Aws}
  {payload : Payload} {request : Request} {response : Response} {state : OperationState}
  {turn : Turn}

theorem polled_iff : w.Polled id state ↔ w.Reports id state := by
  constructor
  · intro polled
    obtain ⟨description, answer⟩ := polled ⟨id, 0⟩ ""
    exact ⟨_, _, description, answer⟩
  · intro reports self now
    obtain ⟨item, inst, row, read, rfl⟩ := reports_iff.mp reports
    exact ⟨inst.lastOperationDescription, by
      simp [Aws.answer, app, respond, instanceLastOperation, run_get_some row, read]⟩

theorem reports_unique {state' : OperationState} (reports : w.Reports id state)
    (reports' : w.Reports id state') : state = state' := by
  obtain ⟨item, inst, row, read, rfl⟩ := reports_iff.mp reports
  obtain ⟨item', inst', row', read', rfl⟩ := reports_iff.mp reports'
  obtain rfl := Option.some.inj (row.symm.trans row')
  obtain rfl : inst = inst' := Except.ok.inj (read.symm.trans read')
  rfl

/-! ## One turn -/

theorem reports_written {item : InstanceItem} {inst : Instance} {u : InstanceUpdate}
    (read : instanceFromItem id item = .ok inst)
    (row : w.instances id = some (u.apply item)) : w.Reports id u.state.operationState :=
  reports_iff.mpr ⟨_, _, row, instanceFromItem_apply read u, rfl⟩

theorem Answered.pending (answered : Answered self now w request response w')
    (queued : w'.provisionTasks = w.provisionTasks ++ [⟨receipt, .object payload⟩]) :
    w'.Reports request.instanceId .inProgress ∧ payload.instanceId = some request.instanceId := by
  have sent {p : Payload} {receipt' : ExecutionName}
      (tasks : w'.provisionTasks = w.provisionTasks ++ [⟨receipt', .object p⟩]) : p = payload := by
    have same := List.append_cancel_left (tasks.symm.trans queued)
    simp only [List.cons.injEq, Message.mk.injEq] at same
    simpa using same.1.2
  have kept (same : w'.provisionTasks = w.provisionTasks) : False := by
    simp [same] at queued
  cases answered with
  | @created id request valid absent =>
      obtain rfl := sent rfl
      refine ⟨?_, rfl⟩
      obtain ⟨inst, read⟩ := (InstanceItem.Complete.newItem now request.serviceId request.planId
        request.parameters request.context).read id
      have started := (instanceFromItem_ok read).2.2.1
      refine reports_iff.mpr ⟨_, inst, Function.update_self _ _ _, read, ?_⟩
      rw [← Option.some.inj started]
      rfl
  | matched => exact (kept rfl).elim
  | @updateQueued id request item inst present read =>
      obtain rfl := sent rfl
      exact ⟨reports_written (u := Osb.updateQueued now request inst) read
        (Function.update_self _ _ _), rfl⟩
  | @deprovisionQueued id item inst present read =>
      obtain rfl := sent rfl
      exact ⟨reports_written (u := Osb.deprovisionQueued now) read
        (Function.update_self _ _ _), rfl⟩
  | other quiet same => exact (kept same.provisionTasks).elim

inductive Aftermath (id : String) (w : Aws) (p : Payload) (w' : Aws) : Prop where
  | failed (fails : ¬p.Renders) (kept : p.op ≠ some .deprovision) (same : w' = w)
  | removed (renders : p.Renders) (gone : p.op = some .deprovision)
      (deleted : w.deleted.length < w'.deleted.length) (row : w'.instances id = none)
  | published (renders : p.Renders) (kept : p.op ≠ some .deprovision)
      (deleted : w.deleted.length < w'.deleted.length) (succeeded : w'.Reports id .succeeded)

theorem Handled.aftermath (handled : Handled settings now receipt w payload w')
    (own : payload.instanceId = some id) (reports : w.Reports id state) :
    Aftermath id w payload w' := by
  obtain ⟨item, inst, row, read, -⟩ := reports_iff.mp reports
  cases handled with
  | @provisioned id' request document rendered =>
      obtain rfl : id' = id := by simpa [Payload.provision] using own
      refine .published ?_ (by simp [Payload.provision])
        (by simp [Aws.acknowledged, Aws.published]) ?_
      · simpa [Payload.Renders, Payload.provision] using renders_iff.mpr ⟨_, rendered⟩
      · refine reports_written (u := Osb.provisioned settings now id') read ?_
        simp [Aws.acknowledged, Aws.published, row]
  | provisionFailed fails =>
      exact .failed (fun renders => fails (renders _ rfl _ rfl _ rfl))
        (by simp [Payload.provision]) rfl
  | @updated id' service plan parameters item' inst' document present read' rendered =>
      obtain rfl : id' = id := by simpa [Payload.update] using own
      refine .published ?_ (by simp [Payload.update])
        (by simp [Aws.acknowledged, Aws.published]) ?_
      · simpa [Payload.Renders, Payload.update] using renders_iff.mpr ⟨_, rendered⟩
      · refine reports_written (u := Osb.updated settings now id' plan parameters) read ?_
        simp [Aws.acknowledged, Aws.published, row]
  | updateFailed present fails =>
      exact .failed (fun renders => fails (renders _ rfl _ rfl _ rfl))
        (by simp [Payload.update]) rfl
  | @updateUnreadable id' service plan parameters item' e present unreadable =>
      obtain rfl : id' = id := by simpa [Payload.update] using own
      obtain rfl := Option.some.inj (row.symm.trans present)
      cases read.symm.trans unreadable
  | @updateMissed id' service plan parameters absent =>
      obtain rfl : id' = id := by simpa [Payload.update] using own
      cases row.symm.trans absent
  | @deprovisioned id' =>
      obtain rfl : id' = id := by simpa [Payload.deprovision] using own
      refine .removed (by simp [Payload.Renders, Payload.deprovision]) rfl
        (by simp [Aws.acknowledged, Aws.removed]) ?_
      simp [Aws.acknowledged, Aws.removed]

theorem answerWith_cut {n : Nat} {effect : Bool} :
    (w.answerWith (some ⟨n, effect⟩) self now request).2 = w.cut self now request n effect :=
  answerWith_snd

theorem transition_row {f : Fault} {item : InstanceItem} {inst : Instance} {u : InstanceUpdate}
    {queued : Aws} (read : instanceFromItem id item = .ok inst)
    (working : u.state.operationState = .inProgress)
    (row : queued.instances id = some (u.apply item))
    (late : 2 < f.call → (w.answerWith (some f) self now request).1.accepted)
    (cut : w.cut self now request f.call f.effect =
      match f.call, f.effect with
      | 0, _ | 1, false => w
      | 1, true | 2, false => w.withRow id (u.apply item)
      | _, _ => queued)
    (failed : ¬(w.answerWith (some f) self now request).1.accepted) :
    let w' := (w.answerWith (some f) self now request).2
    (w'.instances id = w.instances id ∧ ¬Spares (some f) 1) ∨
      (w'.Reports id .inProgress ∧ Spares (some f) 1) := by
  intro w'
  have written {w' : Aws} (row : w'.instances id = some (u.apply item)) :
      w'.Reports id .inProgress := working ▸ reports_written read row
  obtain ⟨n, effect⟩ := f
  have state : w' = w.cut self now request n effect := answerWith_cut
  rw [state, cut]
  match n, effect with
  | 0, effect => exact .inl ⟨rfl, by cases effect <;> simp [Fault.calls]⟩
  | 1, false => exact .inl ⟨rfl, by simp [Fault.calls]⟩
  | 1, true => exact .inr ⟨written (Function.update_self _ _ _), by simp [Fault.calls]⟩
  | 2, false => exact .inr ⟨written (Function.update_self _ _ _), by simp [Fault.calls]⟩
  | 2, true => exact .inr ⟨written row, by simp [Fault.calls]⟩
  | n + 3, effect => exact absurd (late (by simp)) failed

theorem updated_late {payload : UpdateRequest} {item : InstanceItem} {inst : Instance} {f : Fault}
    (present : w.instances id = some item) (read : instanceFromItem id item = .ok inst)
    (late : 2 < f.call) :
    (w.answerWith (some f) self now (.update id payload true)).1.accepted := by
  obtain ⟨n, effect⟩ := f
  obtain ⟨n, rfl⟩ := Nat.exists_eq_add_of_lt late
  rw [show 2 + n + 1 = n + 3 by omega]
  simp [Aws.answerWith, Aws.execute, app, respond, updateInstance, InstanceStore.get,
    CallTree.invoke, perform, present, read, InstanceStore.transition, TaskQueue.send,
    Response.accepted]

theorem deprovisioned_late {item : InstanceItem} {inst : Instance} {f : Fault}
    (present : w.instances id = some item) (read : instanceFromItem id item = .ok inst)
    (late : 2 < f.call) :
    (w.answerWith (some f) self now
      (.deprovision id inst.serviceId inst.planId true)).1.accepted := by
  obtain ⟨n, effect⟩ := f
  obtain ⟨n, rfl⟩ := Nat.exists_eq_add_of_lt late
  rw [show 2 + n + 1 = n + 3 by omega]
  simp [Aws.answerWith, Aws.execute, app, respond, deprovisionInstance, InstanceStore.get,
    CallTree.invoke, perform, present, read, InstanceStore.transition, TaskQueue.send,
    Response.accepted]

theorem provision_row {item : InstanceItem} {request : ProvisionRequest} {incomplete : Bool}
    (present : w.instances id = some item) (fault : Option Fault) :
    (w.answerWith fault self now (.provision id request incomplete)).2 = w := by
  by_cases taken : validInstanceId id ∧ incomplete = true
  · obtain ⟨valid, rfl⟩ := taken
    cases fault with
    | none => simp [answer_provision_present valid present]
    | some f => exact answerWith_cut.trans (cut_provision_present valid present)
  · cases fault with
    | none => exact answer_provision_refused taken
    | some f => exact answerWith_cut.trans (cut_provision_refused taken)

theorem update_reports {item : InstanceItem} {inst : Instance} {request : UpdateRequest}
    {incomplete : Bool} {serial : Nat} {fault : Option Fault}
    (present : w.instances id = some item) (read : instanceFromItem id item = .ok inst)
    (quiet : ¬Turn.AcceptedFor id w (.request (.update id request incomplete) serial now fault)) :
    let turn : Turn := .request (.update id request incomplete) serial now fault
    let w' := (w.answerWith fault ⟨id, serial⟩ now (.update id request incomplete)).2
    (w'.instances id = w.instances id ∧ ¬turn.Strands id w) ∨
      (w'.Reports id .inProgress ∧ turn.Strands id w) := by
  intro turn w'
  cases incomplete with
  | false =>
      have refused : ¬(false = true ∧
          ∃ item ∈ w.instances id, ∃ inst, instanceFromItem id item = .ok inst) := by simp
      have same : w' = w := by
        cases fault with
        | none => exact @answer_update_refused w ⟨id, serial⟩ now id request false refused
        | some f => exact answerWith_cut.trans (cut_update_refused refused)
      refine .inl ⟨by rw [same], fun strands => ?_⟩
      have accepted := strands.2.2.1
      rw [answer_update_sync] at accepted
      simp [Response.accepted] at accepted
  | true =>
      have accepted (self : ExecutionName) :
          (w.answer self now (.update id request true)).1.accepted := by
        rw [answer_update_present present, read]
        simp [Response.accepted]
      have failed : ¬(w.answerWith fault ⟨id, serial⟩ now (.update id request true)).1.accepted :=
        fun accepted => quiet ⟨rfl, trivial, accepted⟩
      cases fault with
      | none => exact absurd (accepted _) failed
      | some f =>
          refine (transition_row (u := updateQueued now request inst) read rfl
            (Function.update_self _ _ _) (updated_late present read)
            (cut_update_readable present read) failed).imp ?_ ?_
          · exact fun still => ⟨still.1, fun strands => still.2 strands.2.2.2⟩
          · exact fun stranded => ⟨stranded.1, rfl, trivial, accepted _, stranded.2⟩

theorem deprovision_reports {item : InstanceItem} {inst : Instance} {service plan : String}
    {incomplete : Bool} {serial : Nat} {fault : Option Fault}
    (present : w.instances id = some item) (read : instanceFromItem id item = .ok inst)
    (quiet : ¬Turn.AcceptedFor id w
      (.request (.deprovision id service plan incomplete) serial now fault)) :
    let turn : Turn := .request (.deprovision id service plan incomplete) serial now fault
    let w' := (w.answerWith fault ⟨id, serial⟩ now (.deprovision id service plan incomplete)).2
    (w'.instances id = w.instances id ∧ ¬turn.Strands id w) ∨
      (w'.Reports id .inProgress ∧ turn.Strands id w) := by
  intro turn w'
  by_cases taken : incomplete = true ∧ inst.serviceId = service ∧ inst.planId = plan
  · obtain ⟨rfl, rfl, rfl⟩ := taken
    have accepted (self : ExecutionName) :
        (w.answer self now (.deprovision id inst.serviceId inst.planId true)).1.accepted := by
      rw [answer_deprovision_present present, read]
      simp [Response.accepted]
    have failed : ¬(w.answerWith fault ⟨id, serial⟩ now
        (.deprovision id inst.serviceId inst.planId true)).1.accepted :=
      fun accepted => quiet ⟨rfl, trivial, accepted⟩
    cases fault with
    | none => exact absurd (accepted _) failed
    | some f =>
        refine (transition_row (u := Osb.deprovisionQueued now) read rfl
          (Function.update_self _ _ _) (deprovisioned_late present read)
          (cut_deprovision_readable present read) failed).imp ?_ ?_
        · exact fun still => ⟨still.1, fun strands => still.2 strands.2.2.2⟩
        · exact fun stranded => ⟨stranded.1, rfl, trivial, accepted _, stranded.2⟩
  · have refused : ¬w.Removable id service plan incomplete := by
      rintro ⟨wanted, item', row, inst', read', same⟩
      obtain rfl := Option.some.inj (present.symm.trans row)
      obtain rfl : inst = inst' := Except.ok.inj (read.symm.trans read')
      exact taken ⟨wanted, same⟩
    have same : w' = w := by
      cases fault with
      | none => exact answer_deprovision_refused refused
      | some f => exact answerWith_cut.trans (cut_deprovision_refused refused)
    refine .inl ⟨by rw [same], fun strands => ?_⟩
    have accepted := strands.2.2.1
    cases incomplete with
    | false =>
        rw [answer_deprovision_sync] at accepted
        simp [Response.accepted] at accepted
    | true =>
        have differ : ¬(inst.serviceId = service ∧ inst.planId = plan) :=
          fun same => taken ⟨rfl, same⟩
        rw [answer_deprovision_present present, read] at accepted
        simp [differ, Response.accepted] at accepted

theorem request_reports {asked : Request} {serial : Nat} {fault : Option Fault}
    (reports : w.Reports id state)
    (quiet : ¬Turn.AcceptedFor id w (.request asked serial now fault)) :
    let w' := (w.answerWith fault ⟨asked.instanceId, serial⟩ now asked).2
    (w'.instances id = w.instances id ∧ ¬Turn.Strands id w (.request asked serial now fault)) ∨
      (w'.Reports id .inProgress ∧ Turn.Strands id w (.request asked serial now fault)) := by
  intro w'
  obtain ⟨item, inst, present, read, -⟩ := reports_iff.mp reports
  by_cases own : asked.instanceId = id ∧ asked.MutatesInstance
  · obtain ⟨rfl, mutates⟩ := own
    cases asked with
    | provision id payload incomplete =>
        refine .inl ⟨?_, fun strands => strands.2.1⟩
        exact congrFun (congrArg _ (provision_row present fault)) id
    | update id payload incomplete => exact update_reports present read quiet
    | deprovision id service plan incomplete => exact deprovision_reports present read quiet
    | _ => exact mutates.elim
  · refine .inl ⟨(answerWith_other fault own).1, fun strands => own ⟨strands.1, ?_⟩⟩
    cases asked with
    | update => trivial
    | deprovision => trivial
    | _ => exact strands.2.1.elim

inductive Turned (id : String) (w : Aws) (turn : Turn) (w' : Aws) : Prop where
  | still (row : w'.instances id = w.instances id) (waits : ¬turn.Completes id)
      (stays : ¬turn.Removes id) (sound : ¬turn.Strands id w)
  | stranded (inProgress : w'.Reports id .inProgress) (waits : ¬turn.Completes id)
      (strands : turn.Strands id w)
  | removed (row : w'.instances id = none) (completes : turn.Completes id)
      (removes : turn.Removes id)
  | published (succeeded : w'.Reports id .succeeded) (completes : turn.Completes id)
      (stays : ¬turn.Removes id) (sound : ¬turn.Strands id w)

variable (settings) in
theorem task_turned {task : { p : Payload // p.IsInstanceTask }} {draws : Draws}
    {fault : Option Fault} (reports : w.Reports id state) :
    Turned id w (.task task receipt draws fault)
      (w.turn settings (.task task receipt draws fault)) := by
  obtain ⟨payload, task⟩ := task
  by_cases own : payload.instanceId = some id
  · obtain ⟨rows, -⟩ : Partly settings fault w payload _ _ :=
      partly_handled settings w task receipt draws fault
    have whole : Handled settings draws.now receipt w payload _ := handled task
    have untouched (early : ¬Spares fault (payload.artifactCall + 1))
        (row : (w.turn settings (.task ⟨payload, task⟩ receipt draws fault)).instances id =
          w.instances id) :
        Turned id w (.task ⟨payload, task⟩ receipt draws fault)
          (w.turn settings (.task ⟨payload, task⟩ receipt draws fault)) :=
      .still row (fun completes => early completes.2.2) (fun removes => early removes.2.2) not_false
    have row := congrFun rows id
    split at row
    next spares =>
      cases whole.aftermath own reports with
      | failed fails kept same =>
          refine .still ?_ (fun completes => fails completes.2.1) (fun removes => kept removes.2.1)
            not_false
          rwa [same] at row
      | removed renders gone deleted none =>
          exact .removed (row.trans none) ⟨own, renders, spares⟩ ⟨own, gone, spares⟩
      | published renders kept deleted succeeded =>
          exact .published ((reports_congr row).mpr succeeded) ⟨own, renders, spares⟩
            (fun removes => kept removes.2.1) not_false
    next early => exact untouched early row
  · exact .still (handleWith_other own task).1 (fun completes => own completes.1)
      (fun removes => own removes.1) not_false

variable (settings) in
theorem turned (reports : w.Reports id state) (quiet : ¬turn.AcceptedFor id w) :
    Turned id w turn (w.turn settings turn) := by
  cases turn with
  | request asked serial now fault =>
      obtain ⟨row, sound⟩ | ⟨inProgress, strands⟩ := request_reports reports quiet
      · exact .still row not_false not_false sound
      · exact .stranded inProgress not_false strands
  | task payload receipt draws fault => exact task_turned settings reports
  | bindingTask payload receipt draws fault =>
      exact .still (congrFun (handleWith_binding payload.2).instances id) not_false not_false
        not_false

theorem pending_turn (pending : w.Reports id .inProgress) (quiet : ¬turn.AcceptedFor id w) :
    (w.turn settings turn).Reports id .inProgress ↔ ¬turn.Completes id := by
  cases turned settings pending quiet with
  | still row waits => exact iff_of_true ((reports_congr row).mpr pending) waits
  | stranded inProgress waits => exact iff_of_true inProgress waits
  | removed row completes =>
      exact iff_of_false (not_reports_of_absent row) fun waits => waits completes
  | published succeeded completes =>
      refine iff_of_false (fun pending => ?_) fun waits => waits completes
      cases reports_unique pending succeeded

theorem succeeded_turn (succeeded : w.Reports id .succeeded) (quiet : ¬turn.AcceptedFor id w) :
    (w.turn settings turn).Reports id .succeeded ↔ ¬turn.Removes id ∧ ¬turn.Strands id w := by
  cases turned settings succeeded quiet with
  | still row waits stays sound =>
      exact iff_of_true ((reports_congr row).mpr succeeded) ⟨stays, sound⟩
  | stranded inProgress waits strands =>
      refine iff_of_false (fun succeeded => ?_) fun kept => kept.2 strands
      cases reports_unique inProgress succeeded
  | removed row completes removes =>
      exact iff_of_false (not_reports_of_absent row) fun kept => kept.1 removes
  | published again completes stays sound => exact iff_of_true again ⟨stays, sound⟩

/-! ## From the acceptance to the next request -/

theorem waiting_iff {during : List Turn} (pending : w.Reports id .inProgress)
    (alone : Machine.Along (Aws.turn settings) (fun w turn => ¬turn.AcceptedFor id w) w during) :
    (∀ before, before <+: during →
        (Machine.exec (Aws.turn settings) w before).Reports id .inProgress) ↔
      ∀ turn ∈ during, ¬turn.Completes id := by
  rw [← Machine.along_forall (Aws.turn settings) (s := w)]
  exact Machine.invariant_iff_along_of (I := fun w => w.Reports id .inProgress)
    (J := fun _ => True) (Aws.turn settings) (fun _ _ _ _ => trivial)
    (fun _ _ _ quiet pending => pending_turn pending quiet) alone trivial pending

theorem finished_iff {task : { p : Payload // p.IsInstanceTask }} {draws : Draws}
    {afterwards : List Turn} (pending : w.Reports id .inProgress)
    (own : task.1.instanceId = some id)
    (succeeds : Turn.Acknowledges settings w (.task task receipt draws none))
    (alone : Machine.Along (Aws.turn settings) (fun w turn => ¬turn.AcceptedFor id w)
      (w.turn settings (.task task receipt draws none)) afterwards) :
    (∀ after, after <+: afterwards → (Machine.exec (Aws.turn settings)
        (w.turn settings (.task task receipt draws none)) after).Reports id .succeeded) ↔
      task.1.op ≠ some .deprovision ∧ Machine.Along (Aws.turn settings)
        (fun w turn => ¬turn.Removes id ∧ ¬turn.Strands id w)
        (w.turn settings (.task task receipt draws none)) afterwards := by
  have aftermath : Aftermath id w task (w.turn settings (.task task receipt draws none)) :=
    (handled task.2).aftermath own pending
  cases aftermath with
  | failed fails kept same =>
      rw [Turn.Acknowledges, same] at succeeds
      exact absurd succeeds (Nat.lt_irrefl _)
  | removed renders gone deleted row =>
      refine iff_of_false (fun all => ?_) fun kept => kept.1 gone
      exact not_reports_of_absent row (all [] List.nil_prefix)
  | published renders kept deleted succeeded =>
      rw [and_iff_right kept]
      exact Machine.invariant_iff_along_of (I := fun w => w.Reports id .succeeded)
        (J := fun _ => True) (Aws.turn settings) (fun _ _ _ _ => trivial)
        (fun _ _ _ quiet succeeded => succeeded_turn succeeded quiet) alone trivial succeeded

/-- An operation whose message is handled with success is in progress until then and succeeded
afterwards exactly when it is no DELETE, no other message of the instance is handled before that
renders, no DELETE message after, and no PATCH or DELETE fails after that once it has written the
row. -/
theorem polls_iff (settings : Settings) {during afterwards : List Turn}
    {task : { p : Payload // p.IsInstanceTask }} {draws : Draws}
    (queues : w.Queues self now request task)
    (alone : Machine.Along (Aws.turn settings)
      (fun w turn => ¬turn.AcceptedFor request.instanceId w) (w.answer self now request).2
      (during ++ .task task receipt draws none :: afterwards))
    (succeeds : Turn.Acknowledges settings
      (Machine.exec (Aws.turn settings) (w.answer self now request).2 during)
      (.task task receipt draws none)) :
    (w.answer self now request).2.Monotone settings request.instanceId during
        (.task task receipt draws none) afterwards ↔
      task.1.op ≠ some .deprovision ∧ (∀ turn ∈ during, ¬turn.Completes request.instanceId) ∧
        Machine.Along (Aws.turn settings)
          (fun w turn => ¬turn.Removes request.instanceId ∧ ¬turn.Strands request.instanceId w)
          (Machine.exec (Aws.turn settings) (w.answer self now request).2
            (during ++ [.task task receipt draws none])) afterwards := by
  obtain ⟨receipt', queued⟩ := queues.queued
  obtain ⟨accepted, own⟩ := (answered self now w request).pending queued
  obtain ⟨quiet, -, quiet'⟩ := (Machine.along_append _).mp alone
  have exec_finished (after : List Turn) :
      Machine.exec (Aws.turn settings) (w.answer self now request).2
          (during ++ .task task receipt draws none :: after) =
        Machine.exec (Aws.turn settings)
          ((Machine.exec (Aws.turn settings) (w.answer self now request).2 during).turn settings
            (.task task receipt draws none)) after := by
    simp [Machine.exec]
  have waits := waiting_iff accepted quiet
  rw [exec_finished []]
  constructor
  · rintro ⟨inProgress, succeeded⟩
    simp only [polled_iff, exec_finished] at inProgress succeeded
    obtain ⟨kept, stays⟩ := (finished_iff (inProgress during (List.prefix_refl _)) own succeeds
      quiet').mp succeeded
    exact ⟨kept, waits.mp inProgress, stays⟩
  · rintro ⟨kept, others, stays⟩
    have inProgress := waits.mpr others
    refine ⟨fun before pre => polled_iff.mpr (inProgress before pre), fun after pre => ?_⟩
    rw [polled_iff, exec_finished]
    exact (finished_iff (inProgress during (List.prefix_refl _)) own succeeds quiet').mpr
      ⟨kept, stays⟩ after pre

theorem created_polled :
    (Broker.init.aws.answer ⟨"a", 0⟩ "now" (.provision "a" ⟨"s", "p", ∅, ∅⟩ true)).2.Monotone {} "a"
      [.request (.provision "b" ⟨"s", "p", ∅, ∅⟩ true) 0 "now" none,
        .request (.update "a" ⟨"s", none, ∅⟩ true) 1 "now" (some ⟨2, false⟩)]
      (.task ⟨_, .provision "a" ⟨"s", "p", ∅, ∅⟩⟩ ⟨"a", 0⟩ ⟨"now", "token"⟩ none)
      [.task ⟨_, .provision "b" ⟨"s", "p", ∅, ∅⟩⟩ ⟨"b", 0⟩ ⟨"now", "token"⟩ none,
        .request (.update "a" ⟨"s", none, ∅⟩ true) 2 "now" (some ⟨0, false⟩)] := by
  have queues : Broker.init.aws.Queues ⟨"a", 0⟩ "now" (.provision "a" ⟨"s", "p", ∅, ∅⟩ true)
      (.provision "a" ⟨"s", "p", ∅, ∅⟩) := ⟨by decide, _, rfl⟩
  apply (polls_iff {} queues _ _).mpr
  · simp [Machine.Along, Payload.provision, Turn.Completes, Turn.Removes, Turn.Strands,
      Fault.calls]
  · refine ⟨fun seen => absurd seen.1 (by decide), fun seen => absurd seen.2.2 (by decide),
      not_false, not_false, fun seen => absurd seen.2.2 (by decide), trivial⟩
  · decide

theorem not_always_polled :
    ¬∀ settings w sender now request task receipt draws during afterwards,
      Aws.Queues w sender now request task.1 →
      Machine.Along (Aws.turn settings)
        (fun w turn => ¬turn.AcceptedFor request.instanceId w) (w.answer sender now request).2
        (during ++ .task task receipt draws none :: afterwards) →
      Turn.Acknowledges settings
        (Machine.exec (Aws.turn settings) (w.answer sender now request).2 during)
        (.task task receipt draws none) →
      (w.answer sender now request).2.Monotone settings request.instanceId during
        (.task task receipt draws none) afterwards := by
  intro always
  let created : Broker := .after {}
    [.request (.provision "a" ⟨"s", "p", ∅, ∅⟩ true) 0 "now", .work .provision ⟨"now", "token"⟩]
  have queues : created.aws.Queues ⟨"a", 1⟩ "now" (.deprovision "a" "s" "p" true)
      (.deprovision "a") := ⟨by decide, ⟨"a", 1⟩, by decide⟩
  have succeeds : Turn.Acknowledges {}
      (created.aws.answer ⟨"a", 1⟩ "now" (.deprovision "a" "s" "p" true)).2
      (.task ⟨_, .deprovision "a"⟩ ⟨"a", 1⟩ ⟨"now", "token"⟩ none) := by decide
  have monotone := always {} created.aws ⟨"a", 1⟩ "now" (.deprovision "a" "s" "p" true)
    ⟨_, .deprovision "a"⟩ ⟨"a", 1⟩ ⟨"now", "token"⟩ [] [] queues ⟨not_false, trivial⟩ succeeds
  have polled := monotone.2 [] (List.prefix_refl _)
  exact not_reports_of_absent rfl (polled_iff.mp polled)

end Regnant.Osb
