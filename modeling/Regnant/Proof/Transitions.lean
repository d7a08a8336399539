import Regnant.Proof.Effects
import Regnant.Proof.Footprint

/-!
# What one step of the broker can do

Every step is one of a few transitions, and every invariant of the broker is derived from these.
-/

namespace Regnant.Osb
open Function (update)

structure Aws.SameInstances (w w' : Aws) : Prop where
  instances : w'.instances = w.instances
  bucket : w'.bucket = w.bucket
  provisionTasks : w'.provisionTasks = w.provisionTasks

def Call.OnBindings : Call → Prop
  | .getInstance _ => True
  | .getBinding _ _ => True
  | .putBinding _ _ _ => True
  | .updateBinding _ _ _ => True
  | .deleteBinding _ _ => True
  | .sendMessage .binding _ => True
  | .deleteMessage _ _ => True
  | _ => False

variable {settings : Settings} {self receipt : ExecutionName} {now : String} {draws : Draws}
  {queue : QueueName} {w w' : Aws} {payload : Payload} {request : Request} {response : Response}

theorem Aws.SameInstances.perform {c : Call} (on : c.OnBindings) (same : w.SameInstances w') :
    w.SameInstances (perform self c w').2 := by
  obtain ⟨instances, bucket, tasks⟩ := same
  cases c with
  | sendMessage queue payload =>
      cases queue with
      | provision => exact on.elim
      | binding => exact ⟨instances, bucket, tasks⟩
  | putBinding bid id item =>
      simp only [Osb.perform]
      split <;> exact ⟨instances, bucket, tasks⟩
  | putInstance => exact on.elim
  | updateInstance => exact on.elim
  | deleteInstance => exact on.elim
  | putObject => exact on.elim
  | deleteObject => exact on.elim
  | _ => exact ⟨instances, bucket, tasks⟩

def Request.MutatesInstance : Request → Prop
  | .provision _ _ _ => True
  | .update _ _ _ => True
  | .deprovision _ _ _ _ => True
  | _ => False

theorem Request.Footprint.onBindings {c : Call} (c_in : request.Footprint c)
    (quiet : ¬request.MutatesInstance) : c.OnBindings := by
  cases c_in with
  | putInstance => exact quiet trivial
  | sendProvision => exact quiet trivial
  | queueUpdate => exact quiet trivial
  | sendUpdate => exact quiet trivial
  | queueDeprovision => exact quiet trivial
  | sendDeprovision => exact quiet trivial
  | _ => trivial

theorem answer_snd :
    (w.answer self now request).2 = ((app now request).run (perform self) w).2 := by
  unfold Aws.answer
  split <;> simp [*]

theorem answer_sameInstances (quiet : ¬request.MutatesInstance) :
    w.SameInstances (w.answer self now request).2 := by
  rw [answer_snd]
  exact CallTree.run_keeps _ ((calls_app now request).mono fun _ c_in => c_in.onBindings quiet)
    (fun _ _ on same => same.perform on) ⟨rfl, rfl, rfl⟩

inductive Payload.IsInstanceTask : Payload → Prop where
  | provision (id payload) : IsInstanceTask (.provision id payload)
  | update (id service plan parameters) : IsInstanceTask (.update id service plan parameters)
  | deprovision (id) : IsInstanceTask (.deprovision id)

inductive Payload.IsBindingTask : Payload → Prop where
  | bind (id bid payload) : IsBindingTask (.bind id bid payload)
  | unbind (id bid) : IsBindingTask (.unbind id bid)

@[simp] theorem Payload.provision_inj {id id' : String} {request request' : ProvisionRequest} :
    Payload.provision id request = .provision id' request' ↔ id = id' ∧ request = request' := by
  obtain ⟨service, plan, context, parameters⟩ := request
  obtain ⟨service', plan', context', parameters'⟩ := request'
  simp only [Payload.provision, Payload.mk.injEq, Option.some.injEq, ProvisionRequest.mk.injEq]
  tauto

@[simp] theorem Payload.update_inj {id id' service service' plan plan' : String}
    {parameters parameters' : Dict} :
    Payload.update id service plan parameters = .update id' service' plan' parameters' ↔
      id = id' ∧ service = service' ∧ plan = plan' ∧ parameters = parameters' := by
  simp [Payload.update]

@[simp] theorem Payload.update_ne_provision {id id' service plan : String} {parameters : Dict}
    {request : ProvisionRequest} :
    Payload.update id service plan parameters ≠ .provision id' request := by
  simp [Payload.update, Payload.provision]

@[simp] theorem Payload.deprovision_ne_provision {id id' : String} {request : ProvisionRequest} :
    Payload.deprovision id ≠ .provision id' request := by
  simp [Payload.deprovision, Payload.provision]

@[simp] theorem Payload.deprovision_inj {id id' : String} :
    Payload.deprovision id = .deprovision id' ↔ id = id' := by
  simp [Payload.deprovision]

@[simp] theorem Payload.update_ne_deprovision {id id' service plan : String} {parameters : Dict} :
    Payload.update id service plan parameters ≠ .deprovision id' := by
  simp [Payload.update, Payload.deprovision]

structure Aws.Sorted (w : Aws) : Prop where
  provision : ∀ m ∈ w.provisionTasks, ∃ payload, m.body = .object payload ∧ payload.IsInstanceTask
  binding : ∀ m ∈ w.bindingTasks, ∃ payload, m.body = .object payload ∧ payload.IsBindingTask

theorem Payload.Footprint.onBindings {c : Call}
    (c_in : payload.Footprint settings queue receipt c) (task : payload.IsBindingTask) :
    c.OnBindings := by
  cases task with
  | bind id bid payload => cases c_in <;> simp_all [Payload.bind, Call.OnBindings]
  | unbind id bid => cases c_in <;> simp_all [Payload.unbind, Call.OnBindings]

theorem handle_sameInstances (task : payload.IsBindingTask) :
    w.SameInstances (w.handle settings queue draws ⟨receipt, .object payload⟩) :=
  CallTree.run_keeps _ ((calls_handle draws).mono fun _ c_in => c_in.onBindings task)
    (fun _ _ on same => same.perform on) ⟨rfl, rfl, rfl⟩

/-! ## Requests -/

/-- What a request can do: the response it gets and the state it leaves. -/
inductive Answered (self : ExecutionName) (now : String) (w : Aws) :
    Request → Response → Aws → Prop where
  | created {id payload} (valid : validInstanceId id) (absent : w.instances id = none) :
      Answered self now w (.provision id payload true) ⟨202, .operation "provision"⟩
        (w.created self now id payload)
  | matched {id payload item inst} (present : w.instances id = some item)
      (read : instanceFromItem id item = .ok inst) (service : inst.serviceId = payload.serviceId)
      (plan : inst.planId = payload.planId) :
      Answered self now w (.provision id payload true) ⟨202, .operation "provision"⟩ w
  | updateQueued {id payload item inst} (present : w.instances id = some item)
      (read : instanceFromItem id item = .ok inst) :
      Answered self now w (.update id payload true) ⟨202, .operation "update"⟩
        (w.updateQueued self now id payload item inst)
  | deprovisionQueued {id item inst} (present : w.instances id = some item)
      (read : instanceFromItem id item = .ok inst) :
      Answered self now w (.deprovision id inst.serviceId inst.planId true)
        ⟨200, .operation "deprovision"⟩ (w.deprovisionQueued self now id item)
  | other {request : Request} {response : Response} {w' : Aws}
      (quiet : ¬(response.accepted ∧ request.MutatesInstance))
      (same : w.SameInstances w') : Answered self now w request response w'

theorem Answered.rejected {self : ExecutionName} {now : String} {w w' : Aws} {request : Request}
    {response : Response} (same : w' = w) (rejected : 300 ≤ response.status) :
    Answered self now w request response w' := by
  subst same
  exact .other (fun h => absurd h.1.2 (Nat.not_lt.mpr rejected)) ⟨rfl, rfl, rfl⟩

theorem answered (self : ExecutionName) (now : String) (w : Aws) (request : Request) :
    Answered self now w request (w.answer self now request).1 (w.answer self now request).2 := by
  cases request with
  | provision id payload incomplete =>
      by_cases valid : validInstanceId id
      · cases incomplete with
        | false =>
            rw [answer_provision_sync valid]
            exact .rejected rfl (by simp)
        | true =>
            cases row : w.instances id with
            | none =>
                rw [answer_provision_absent valid row]
                exact .created valid row
            | some item =>
                rw [answer_provision_present valid row]
                cases read : instanceFromItem id item with
                | error e => exact .rejected rfl (by simp)
                | ok inst =>
                    dsimp only
                    split
                    next same => exact .matched row read same.1 same.2
                    next => exact .rejected rfl (by simp)
      · rw [answer_provision_invalid valid]
        exact .rejected rfl (by simp)
  | update id payload incomplete =>
      cases incomplete with
      | false =>
          rw [answer_update_sync]
          exact .rejected rfl (by simp)
      | true =>
          cases row : w.instances id with
          | none =>
              rw [answer_update_absent row]
              exact .rejected rfl (by simp)
          | some item =>
              rw [answer_update_present row]
              cases read : instanceFromItem id item with
              | error e => exact .rejected rfl (by simp)
              | ok inst => exact .updateQueued row read
  | deprovision id service plan incomplete =>
      cases incomplete with
      | false =>
          rw [answer_deprovision_sync]
          exact .rejected rfl (by simp)
      | true =>
          cases row : w.instances id with
          | none =>
              rw [answer_deprovision_absent row]
              exact .rejected rfl (by simp)
          | some item =>
              rw [answer_deprovision_present row]
              cases read : instanceFromItem id item with
              | error e => exact .rejected rfl (by simp)
              | ok inst =>
                  dsimp only
                  split
                  next same =>
                    obtain ⟨rfl, rfl⟩ := same
                    exact .deprovisionQueued row read
                  next => exact .rejected rfl (by simp)
  | _ => exact .other (fun h => h.2.elim) (answer_sameInstances id)

/-! ## Handlings -/

inductive Handled (settings : Settings) (now : String) (receipt : ExecutionName) (w : Aws) :
    Payload → Aws → Prop where
  | provisioned {id payload document}
      (rendered : renderResources id payload.serviceId payload.planId payload.parameters =
        .ok document) :
      Handled settings now receipt w (.provision id payload)
        ((w.published settings id document (provisioned settings now id)).acknowledged .provision
          receipt)
  | provisionFailed {id payload}
      (fails : ¬Renders id payload.serviceId payload.planId payload.parameters) :
      Handled settings now receipt w (.provision id payload) w
  | updated {id service plan parameters item inst document} (present : w.instances id = some item)
      (read : instanceFromItem id item = .ok inst)
      (rendered : renderResources id service plan parameters = .ok document) :
      Handled settings now receipt w (.update id service plan parameters)
        ((w.published settings id document (updated settings now id plan parameters)).acknowledged
          .provision receipt)
  | updateFailed {id service plan parameters item} (present : w.instances id = some item)
      (fails : ¬Renders id service plan parameters) :
      Handled settings now receipt w (.update id service plan parameters) w
  | updateUnreadable {id service plan parameters item e} (present : w.instances id = some item)
      (unreadable : instanceFromItem id item = .error e) :
      Handled settings now receipt w (.update id service plan parameters) w
  | updateMissed {id service plan parameters} (absent : w.instances id = none) :
      Handled settings now receipt w (.update id service plan parameters)
        (w.acknowledged .provision receipt)
  | deprovisioned {id} :
      Handled settings now receipt w (.deprovision id)
        ((w.removed settings id).acknowledged .provision receipt)

theorem handled (task : payload.IsInstanceTask) :
    Handled settings draws.now receipt w payload
      (w.handle settings .provision draws ⟨receipt, .object payload⟩) := by
  cases task with
  | provision id payload =>
      by_cases renders : Renders id payload.serviceId payload.planId payload.parameters
      · obtain ⟨document, rendered⟩ := renders_iff.mp renders
        rw [handle_provision rendered]
        exact .provisioned rendered
      · rw [handle_provision_fails renders]
        exact .provisionFailed renders
  | update id service plan parameters =>
      cases row : w.instances id with
      | none =>
          rw [handle_update_absent row]
          exact .updateMissed row
      | some item =>
          by_cases renders : Renders id service plan parameters
          · obtain ⟨document, rendered⟩ := renders_iff.mp renders
            cases read : instanceFromItem id item with
            | error e =>
                rw [handle_update_unreadable row read]
                exact .updateUnreadable row read
            | ok inst =>
                rw [handle_update row read rendered]
                exact .updated row read rendered
          · rw [handle_update_fails row renders]
            exact .updateFailed row renders
  | deprovision id =>
      rw [handle_deprovision]
      exact .deprovisioned

/-! ## Steps -/

inductive Transition (settings : Settings) (s : Broker) : Step → Broker → Prop where
  | answered {request : Request} {serial : Nat} {now : String} {response : Response} {w' : Aws}
      (answered : Answered ⟨request.instanceId, serial⟩ now s.aws request response w') :
      Transition settings s (.request request serial now)
        ⟨w', s.history ++ [.answered s.aws request response]⟩
  | handled {draws : Draws} {receipt : ExecutionName} {payload : Payload} {rest : List Message}
      {w' : Aws}
      (head : s.aws.provisionTasks = ⟨receipt, .object payload⟩ :: rest)
      (handled : Handled settings draws.now receipt { s.aws with provisionTasks := rest } payload
        w') :
      Transition settings s (.work .provision draws)
        ⟨w', s.history ++ [.handled s.aws .provision ⟨receipt, .object payload⟩]⟩
  | bindingHandled {draws : Draws} {message : Message} {w' : Aws} (same : s.aws.SameInstances w') :
      Transition settings s (.work .binding draws)
        ⟨w', s.history ++ [.handled s.aws .binding message]⟩
  | idle {queue : QueueName} {draws : Draws} (empty : s.aws.tasks queue = []) :
      Transition settings s (.work queue draws) s

theorem step_transition {s : Broker} (sorted : s.aws.Sorted) (i : Step) :
    Transition settings s i (s.step settings i) := by
  cases i with
  | request request serial now => exact .answered (answered _ now s.aws request)
  | work queue draws =>
      cases queue with
      | provision =>
          cases tasks : s.aws.provisionTasks with
          | nil =>
              simp only [Broker.step, Aws.tasks, tasks]
              exact .idle tasks
          | cons m rest =>
              obtain ⟨payload, body, task⟩ := sorted.provision m (by simp [tasks])
              obtain ⟨receipt, _⟩ := m
              cases body
              simp only [Broker.step, Aws.tasks, tasks, Aws.setTasks]
              exact .handled tasks (handled task)
      | binding =>
          cases tasks : s.aws.bindingTasks with
          | nil =>
              simp only [Broker.step, Aws.tasks, tasks]
              exact .idle tasks
          | cons m rest =>
              obtain ⟨payload, body, task⟩ := sorted.binding m (by simp [tasks])
              obtain ⟨receipt, _⟩ := m
              cases body
              simp only [Broker.step, Aws.tasks, tasks, Aws.setTasks]
              have same : { s.aws with bindingTasks := rest }.SameInstances
                  (Aws.handle settings { s.aws with bindingTasks := rest } .binding draws
                    ⟨receipt, .object payload⟩) := handle_sameInstances task
              exact .bindingHandled ⟨same.instances, same.bucket, same.provisionTasks⟩

/-! ## The queues stay sorted -/

theorem Aws.Sorted.send_provision (sorted : w.Sorted) (task : payload.IsInstanceTask) :
    (perform self (.sendMessage .provision payload) w).2.Sorted := by
  refine ⟨fun m member => ?_, sorted.binding⟩
  simp only [perform, List.mem_append, List.mem_singleton] at member
  rcases member with member | rfl
  · exact sorted.provision m member
  · exact ⟨payload, rfl, task⟩

theorem Aws.Sorted.send_binding (sorted : w.Sorted) (task : payload.IsBindingTask) :
    (perform self (.sendMessage .binding payload) w).2.Sorted := by
  refine ⟨sorted.provision, fun m member => ?_⟩
  simp only [perform, List.mem_append, List.mem_singleton] at member
  rcases member with member | rfl
  · exact sorted.binding m member
  · exact ⟨payload, rfl, task⟩

theorem Aws.Sorted.perform_request {c : Call} (c_in : request.Footprint c) (sorted : w.Sorted) :
    (perform self c w).2.Sorted := by
  cases c_in with
  | sendProvision => exact sorted.send_provision (.provision _ _)
  | sendUpdate => exact sorted.send_provision (.update _ _ _ _)
  | sendDeprovision => exact sorted.send_provision (.deprovision _)
  | sendBind => exact sorted.send_binding (.bind _ _ _)
  | sendUnbind => exact sorted.send_binding (.unbind _ _)
  | putInstance item =>
      simp only [perform]
      split <;> exact ⟨sorted.provision, sorted.binding⟩
  | bindPut item =>
      simp only [perform]
      split <;> exact ⟨sorted.provision, sorted.binding⟩
  | _ => exact ⟨sorted.provision, sorted.binding⟩

theorem Aws.Sorted.perform_payload {c : Call}
    (c_in : payload.Footprint settings queue receipt c) (sorted : w.Sorted) :
    (perform self c w).2.Sorted := by
  cases c_in <;> exact ⟨sorted.provision, sorted.binding⟩

theorem Aws.Sorted.step {s : Broker} (sorted : s.aws.Sorted) (i : Step) :
    (s.step settings i).aws.Sorted := by
  cases i with
  | request request serial now =>
      simp only [Broker.step, answer_snd]
      exact CallTree.run_keeps _ (calls_app now request)
        (fun _ _ c_in sorted => sorted.perform_request c_in) sorted
  | work queue draws =>
      simp only [Broker.step]
      cases tasks : s.aws.tasks queue with
      | nil => exact sorted
      | cons m rest =>
          have rest_sorted : (s.aws.setTasks queue rest).Sorted ∧
              ∃ payload, m.body = .object payload := by
            cases queue with
            | provision =>
                obtain ⟨payload, body, -⟩ := sorted.provision m (by simp_all [Aws.tasks])
                refine ⟨⟨fun m' member => sorted.provision m' ?_, sorted.binding⟩, payload, body⟩
                simp_all [Aws.tasks, Aws.setTasks]
            | binding =>
                obtain ⟨payload, body, -⟩ := sorted.binding m (by simp_all [Aws.tasks])
                refine ⟨⟨sorted.provision, fun m' member => sorted.binding m' ?_⟩, payload, body⟩
                simp_all [Aws.tasks, Aws.setTasks]
          obtain ⟨receipt, body⟩ := m
          obtain ⟨rest_sorted, payload, rfl⟩ := rest_sorted
          exact CallTree.run_keeps _ (calls_handle draws)
            (fun _ _ c_in sorted => sorted.perform_payload c_in) rest_sorted

theorem Aws.Sorted.init : Broker.init.aws.Sorted :=
  ⟨fun _ member => (List.not_mem_nil member).elim, fun _ member => (List.not_mem_nil member).elim⟩

def Aws.Shaped (settings : Settings) (w : Aws) : Prop :=
  ∀ id item, w.instances id = some item → item.Shaped settings id

theorem Aws.Shaped.getD (shaped : w.Shaped settings) (id : String) :
    ((w.instances id).getD {}).Shaped settings id := by
  cases row : w.instances id with
  | none => exact .empty settings id
  | some item => exact shaped id item row

theorem Aws.Shaped.update {id : String} {row : Option InstanceItem} (shaped : w.Shaped settings)
    (rows : w'.instances = Function.update w.instances id row)
    (written : ∀ item ∈ row, item.Shaped settings id) : w'.Shaped settings := by
  intro id' item' row'
  rw [rows, Function.update_apply] at row'
  split at row'
  next same =>
    subst same
    exact written item' row'
  next => exact shaped id' item' row'

theorem Aws.Shaped.of_same (shaped : w.Shaped settings) (same : w'.instances = w.instances) :
    w'.Shaped settings := by
  rwa [Aws.Shaped, same]

theorem Aws.Shaped.answered (shaped : w.Shaped settings)
    (answered : Answered self now w request response w') : w'.Shaped settings := by
  cases answered with
  | @created id payload valid absent =>
      refine shaped.update rfl fun item written => ?_
      obtain rfl := Option.mem_some_iff.mp written
      exact ⟨.inl rfl, fun _ => .newItem _ _ _ _ _⟩
  | matched => exact shaped
  | updateQueued present read =>
      refine shaped.update rfl fun item written => ?_
      obtain rfl := Option.mem_some_iff.mp written
      exact (shaped _ _ present).apply _ (.inl rfl)
  | deprovisionQueued present read =>
      refine shaped.update rfl fun item written => ?_
      obtain rfl := Option.mem_some_iff.mp written
      exact (shaped _ _ present).apply _ (.inl rfl)
  | other quiet same => exact shaped.of_same same.instances

theorem Aws.Shaped.handled (shaped : w.Shaped settings)
    (handled : Handled settings now receipt w payload w') : w'.Shaped settings := by
  cases handled with
  | provisioned =>
      refine shaped.update rfl fun item written => ?_
      obtain rfl := Option.mem_some_iff.mp written
      exact (shaped.getD _).apply _ (.inr rfl)
  | updated =>
      refine shaped.update rfl fun item written => ?_
      obtain rfl := Option.mem_some_iff.mp written
      exact (shaped.getD _).apply _ (.inr rfl)
  | deprovisioned => exact shaped.update rfl fun _ written => by cases written
  | _ => exact shaped

theorem Aws.Shaped.transition {s s' : Broker} {i : Step} (shaped : s.aws.Shaped settings)
    (transition : Transition settings s i s') : s'.aws.Shaped settings := by
  cases transition with
  | answered answered => exact shaped.answered answered
  | @handled _ _ _ rest _ head handled =>
      have shaped_rest : ({ s.aws with provisionTasks := rest } : Aws).Shaped settings := shaped
      exact shaped_rest.handled handled
  | bindingHandled same => exact shaped.of_same same.instances
  | idle => exact shaped

theorem Aws.Shaped.init (settings : Settings) : Broker.init.aws.Shaped settings :=
  fun _ _ row => by cases row

theorem after_invariant {ok : Broker → Step → Prop} {I : Broker → Prop} (start : I .init)
    (keeps : ∀ s i s', I s → ok s i → Transition settings s i s' → I s') {steps : List Step}
    (allowed : Machine.Along (Broker.step settings) ok .init steps) :
    I (.after settings steps) := by
  have both : (Broker.after settings steps).aws.Sorted ∧ I (.after settings steps) := by
    refine Machine.exec_invariant (I := fun s : Broker => s.aws.Sorted ∧ I s) _
      (fun s i both now => ?_)
      ⟨Aws.Sorted.init, start⟩ allowed
    exact ⟨both.1.step i, keeps s i _ both.2 now (step_transition both.1 i)⟩
  exact both.2

end Regnant.Osb
