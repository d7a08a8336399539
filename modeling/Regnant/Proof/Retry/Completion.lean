import Regnant.Proof.Retry.Bindings
import Regnant.Proof.Retry.Instances
import Regnant.Proof.Transitions

/-!
# Retrying after a failed call

Every route but two writes and sends the same things again when it is repeated. The routes that
create a row take a row that is there for one whose message was sent.
-/

namespace Regnant.Osb
open Function (update)

/-- The failed call is the put of a row that took effect, or the send after it that did not. -/
def Request.Strands (w : Aws) (n : Nat) (effect : Bool) : Request → Prop
  | .provision id payload incomplete =>
      validInstanceId id ∧ incomplete = true ∧ w.instances id = none ∧
        Renders id payload.serviceId payload.planId payload.parameters ∧
        (n = 1 ∧ effect = true ∨ n = 2 ∧ effect = false)
  | .bind id bid _ =>
      w.Bindable id ∧ w.bindings (bid, id) = none ∧
        (n = 2 ∧ effect = true ∨ n = 3 ∧ effect = false)
  | _ => False

variable {settings : Settings} {w : Aws} {request : Request} {n : Nat} {effect : Bool}

def Request.Reads : Request → Prop
  | .fetchInstance _ => True
  | .instanceLastOperation _ => True
  | .fetchBinding _ _ => True
  | .bindingLastOperation _ _ => True
  | _ => False

def Call.Reads : Call → Prop
  | .getInstance _ => True
  | .getBinding _ _ => True
  | _ => False

theorem Request.Footprint.reads {c : Call} (c_in : request.Footprint c) (reads : request.Reads) :
    c.Reads := by
  cases c_in <;> trivial

theorem perform_reads {self : ExecutionName} {c : Call} (reads : c.Reads) :
    (perform self c w).2 = w := by
  cases c <;> first | rfl | exact reads.elim

theorem completes_reads (idle : w.Idle) (reads : request.Reads) :
    w.Completes settings request n effect := by
  have calls (now : String) : (app now request).Calls Call.Reads :=
    (calls_app now request).mono fun _ c_in => c_in.reads reads
  refine completes_of_unchanged idle (fun self now => ?_) fun self now => ?_
  · refine CallTree.runCut_keeps (I := fun w' => w' = w) _ (calls now)
      (fun c s reads same => ?_) rfl
    rw [perform_reads reads, same]
  · rw [answer_snd]
    refine CallTree.run_keeps (I := fun w' => w' = w) _ (calls now) (fun c s reads same => ?_) rfl
    rw [perform_reads reads, same]

theorem Aws.Same.state {w' : Aws} (same : w.Same w') (id : String) :
    (w.instances id).map (·.state) = (w'.instances id).map (·.state) := by
  have states := congrArg (Option.map InstanceItem.state) (same.instances id)
  rwa [Option.map_map, Option.map_map] at states

theorem Aws.Same.bindingState {w' : Aws} (same : w.Same w') (key : String × String) :
    (w.bindings key).map (·.state) = (w'.bindings key).map (·.state) := by
  have states := congrArg (Option.map BindingItem.state) (same.bindings key)
  rwa [Option.map_map, Option.map_map] at states

theorem drained_one (settings : Settings) {queue : QueueName} {receipt : ExecutionName}
    {p : Payload} (draws : Draws)
    (tasks : ∀ queue', w.tasks queue' = if queue' = queue then [⟨receipt, .object p⟩] else []) :
    Aws.Drained settings w
      ((w.setTasks queue []).handle settings queue draws ⟨receipt, .object p⟩) := by
  have none (queue' : QueueName) : ((w.setTasks queue []).handle settings queue draws
      ⟨receipt, .object p⟩).tasks queue' = [] := by
    rw [handle_tasks]
    have others := tasks queue'
    cases queue <;> cases queue' <;> simp_all [Aws.tasks, Aws.setTasks]
  exact .work queue draws (by simpa using tasks queue) (.empty (none .provision) (none .binding))

theorem not_completes_provision (idle : w.Idle) {id : String} {payload : ProvisionRequest}
    (valid : validInstanceId id) (absent : w.instances id = none)
    (renders : Renders id payload.serviceId payload.planId payload.parameters)
    (here : n = 1 ∧ effect = true ∨ n = 2 ∧ effect = false) :
    ¬w.Completes settings (.provision id payload true) n effect := by
  intro completes
  obtain ⟨document, rendered⟩ := renders_iff.mp renders
  have cut : w.cut ⟨id, 0⟩ "" (.provision id payload true) n effect =
      w.withNewRow "" id payload := by
    rcases here with ⟨rfl, rfl⟩ | ⟨rfl, rfl⟩ <;> exact cut_provision_absent valid absent
  have own := answer_provision_own (w := w.withNewRow "" id payload) ⟨id, 1⟩ "" valid
    (Function.update_self _ _ _)
  have retried : Aws.Retried (.provision id payload true)
      (w.cut ⟨id, 0⟩ "" (.provision id payload true) n effect)
      ((w.withNewRow "" id payload).answer ⟨id, 1⟩ "" (.provision id payload true)).2 := by
    rw [cut]
    exact .accepted _ _ (by simp [own, Response.accepted])
  rw [own] at retried
  have drained : Aws.Drained settings (w.withNewRow "" id payload) (w.withNewRow "" id payload) :=
    .empty idle.provision idle.binding
  have uncut : w.answer ⟨id, 0⟩ "" (.provision id payload true) =
      (⟨202, .operation "provision"⟩, w.created ⟨id, 0⟩ "" id payload) :=
    answer_provision_absent valid absent
  have tasks (queue : QueueName) : (w.created ⟨id, 0⟩ "" id payload).tasks queue =
      if queue = .provision then [⟨⟨id, 0⟩, .object (.provision id payload)⟩] else [] := by
    cases queue <;> simp [Aws.created, Aws.tasks, idle.provision, idle.binding]
  have drained' := drained_one settings ⟨"", ""⟩ tasks
  have completed := completes ⟨id, 0⟩ ⟨id, 0⟩ "" "" _ _
    (((w.created ⟨id, 0⟩ "" id payload).setTasks .provision []).handle settings .provision ⟨"", ""⟩
      ⟨⟨id, 0⟩, .object (.provision id payload)⟩) retried drained
  rw [uncut] at completed
  have states := (completed drained').state id
  rw [handle_provision rendered] at states
  simp [Aws.withNewRow, Aws.withRow, InstanceStore.newItem, Aws.acknowledged, Aws.published,
    InstanceUpdate.apply, provisioned] at states

theorem not_completes_bind (idle : w.Idle) {id bid : String} {payload : BindRequest}
    (bindable : w.Bindable id) (absent : w.bindings (bid, id) = none)
    (here : n = 2 ∧ effect = true ∨ n = 3 ∧ effect = false) :
    ¬w.Completes settings (.bind id bid payload) n effect := by
  intro completes
  have opened := bindable
  obtain ⟨item, present, inst, read, open'⟩ := opened
  have cut : w.cut ⟨id, 0⟩ "" (.bind id bid payload) n effect =
      w.withBinding "" id bid payload := by
    rcases here with ⟨rfl, rfl⟩ | ⟨rfl, rfl⟩ <;> exact cut_bind_created present read open' absent
  have bindable' : (w.withBinding "" id bid payload).Bindable id := bindable
  have row : (w.withBinding "" id bid payload).bindings (bid, id) = some (BindingStore.newItem ""
      payload.serviceId payload.planId payload.parameters) := Function.update_self _ _ _
  have own := answer_bind_own ⟨id, 1⟩ "" bindable' row
  have retried : Aws.Retried (.bind id bid payload)
      (w.cut ⟨id, 0⟩ "" (.bind id bid payload) n effect)
      ((w.withBinding "" id bid payload).answer ⟨id, 1⟩ "" (.bind id bid payload)).2 := by
    rw [cut]
    exact .accepted _ _ own.1
  rw [own.2] at retried
  have drained : Aws.Drained settings (w.withBinding "" id bid payload)
      (w.withBinding "" id bid payload) := .empty idle.provision idle.binding
  have uncut : w.answer ⟨id, 0⟩ "" (.bind id bid payload) =
      (⟨201, .bind {
          uri := s!"https://{id}.internal.regnant.local"
          username := s!"binding-{bid}"
          password := "pending-rotation" }⟩,
        (w.withBinding "" id bid payload).bindSent ⟨id, 0⟩ id bid payload) :=
    answer_bind_created present read open' absent
  have tasks (queue : QueueName) :
      ((w.withBinding "" id bid payload).bindSent ⟨id, 0⟩ id bid payload).tasks queue =
        if queue = .binding then [⟨⟨id, 0⟩, .object (.bind id bid payload)⟩] else [] := by
    cases queue <;>
      simp [Aws.bindSent, Aws.withBinding, Aws.tasks, idle.provision, idle.binding]
  have drained' := drained_one settings ⟨"", ""⟩ tasks
  have completed := completes ⟨id, 0⟩ ⟨id, 0⟩ "" "" _ _
    ((((w.withBinding "" id bid payload).bindSent ⟨id, 0⟩ id bid payload).setTasks .binding
      []).handle settings .binding ⟨"", ""⟩ ⟨⟨id, 0⟩, .object (.bind id bid payload)⟩)
    retried drained
  rw [uncut] at completed
  have states := (completed drained').bindingState (bid, id)
  rw [handle_bind] at states
  simp [Aws.withBinding, BindingStore.newItem, Aws.acknowledged, Aws.completed,
    BindingUpdate.apply, bound] at states

theorem not_completes_of_strands (idle : w.Idle) (strands : request.Strands w n effect) :
    ¬w.Completes settings request n effect := by
  cases request with
  | provision id payload incomplete =>
      obtain ⟨valid, rfl, absent, renders, here⟩ := strands
      exact not_completes_provision idle valid absent renders here
  | bind id bid payload =>
      obtain ⟨bindable, absent, here⟩ := strands
      exact not_completes_bind idle bindable absent here
  | _ => exact strands.elim

/-- Cutting a request short at a call is repaired by repeating it exactly when the failed call does
not strand a row without its message. -/
theorem retry_completes_iff (settings : Settings) (w : Aws) (idle : w.Idle) (request : Request)
    (n : Nat) (effect : Bool) :
    w.Completes settings request n effect ↔ ¬request.Strands w n effect := by
  refine ⟨fun completes strands => not_completes_of_strands idle strands completes, fun kept => ?_⟩
  cases request with
  | provision id payload incomplete => exact completes_provision idle kept
  | update id payload incomplete => exact completes_update idle
  | deprovision id service plan incomplete => exact completes_deprovision idle
  | bind id bid payload => exact completes_bind idle kept
  | unbind id bid service plan => exact completes_unbind idle
  | _ => exact completes_reads idle trivial

theorem cut_update_completes :
    ({ Aws.empty with
        instances := update (fun _ => none) "a"
          (some (InstanceStore.newItem "now" "s" "p" ∅ ∅)) } : Aws).Completes {}
      (.update "a" ⟨"s", some "q", ∅⟩ true) 1 true :=
  (retry_completes_iff {} _ ⟨rfl, rfl⟩ (.update "a" ⟨"s", some "q", ∅⟩ true) 1 true).mpr id

theorem retries_not_always_complete :
    ¬∀ settings w, w.Idle → ∀ request : Request, ¬request.Reads → ∀ n,
      (∀ self now, n < (app now request).callsMade (perform self) w) →
      ∀ effect, w.Completes settings request n effect := by
  intro always
  have idle : Aws.empty.Idle := ⟨rfl, rfl⟩
  have completes := always {} .empty idle (.provision "a" ⟨"s", "p", ∅, ∅⟩ true) id 2
    (fun _ _ => Nat.lt_succ_self 2) false
  exact not_completes_provision idle (by decide) rfl (by decide) (.inr ⟨rfl, rfl⟩) completes

end Regnant.Osb
