import Regnant.Proof.BindingEffects
import Regnant.Proof.Calls
import Regnant.Proof.Codec
import Regnant.Proof.Transitions

namespace Regnant.Osb
open CallTree
open Function (update)

structure Dict.Plain (d : Dict) : Prop where
  floatFree : d.FloatFree
  intFree : d.IntFree

theorem Dict.Plain.empty : (∅ : Dict).Plain :=
  ⟨by decide, by decide⟩

theorem Dict.IntFree.lookup {d : Dict} (free : d.IntFree) {key : String} {v : Value}
    (value : d.lookup key = some v) : v.IntFree :=
  Dict.forall_entries.mp free key v value

theorem Dict.Plain.merge {stored sent : Dict} (here : stored.Plain) (there : sent.Plain) :
    (stored.merge sent).Plain := by
  refine ⟨here.floatFree.merge there.floatFree, Dict.forall_entries.mpr fun key v value => ?_⟩
  rw [Dict.lookup_merge, Option.or_eq_some_iff] at value
  rcases value with value | ⟨-, value⟩
  · exact there.intFree.lookup value
  · exact here.intFree.lookup value

structure Aws.Plain (w : Aws) : Prop where
  instances : ∀ id item, w.instances id = some item → (item.parameters.getD ∅).Plain
  bindings : ∀ pair item, w.bindings pair = some item → (item.parameters.getD ∅).Plain
  tasks : ∀ queue m payload d, m ∈ w.tasks queue → m.body = .object payload →
    payload.parameters = some d → d.Plain

def Request.Plain : Request → Prop
  | .provision _ payload _ => payload.parameters.Plain ∧ payload.context.FloatFree
  | .update _ payload _ => payload.parameters.Plain
  | .bind _ _ payload => payload.parameters.Plain
  | _ => True

def Call.Plain : Call → Prop
  | .putInstance _ item => (item.parameters.getD ∅).Plain
  | .updateInstance _ u => ∀ d, u.parameters = some d → d.Plain
  | .putBinding _ _ item => (item.parameters.getD ∅).Plain
  | .sendMessage _ payload => ∀ d, payload.parameters = some d → d.Plain
  | _ => True

variable {self : ExecutionName} {now id bid : String} {w : Aws} {settings : Settings}
  {queue : QueueName} {draws : Draws} {request : Request} {c : Call}

theorem Call.Plain.onInstance (plain : c.Plain) (id : String) :
    (c.onInstance id).Writes fun item => (item.parameters.getD ∅).Plain := by
  cases c with
  | putInstance id' item => exact .onKey plain
  | updateInstance id' u => exact .onKey ⟨.empty, fun item here => u.parameters_apply here plain⟩
  | deleteInstance id' => exact .onKey trivial
  | _ => trivial

theorem Call.Plain.onBinding (plain : c.Plain) (pair : String × String) :
    (c.onBinding pair).Writes fun item => (item.parameters.getD ∅).Plain := by
  cases c with
  | putBinding bid id item => exact .onKey plain
  | updateBinding bid id u => exact .onKey ⟨.empty, fun item here => here⟩
  | deleteBinding bid id => exact .onKey trivial
  | _ => trivial

theorem Call.Plain.sent (plain : c.Plain) {m : Message} {payload : Payload} {d : Dict}
    (member : m ∈ c.sent self queue) (body : m.body = .object payload)
    (parameters : payload.parameters = some d) : d.Plain := by
  cases c with
  | sendMessage queue' payload' =>
      simp only [Call.sent] at member
      split at member
      · obtain rfl := List.mem_singleton.mp member
        cases body
        exact plain d parameters
      · exact absurd member List.not_mem_nil
  | _ => exact absurd member List.not_mem_nil

theorem Aws.Plain.perform (plain : w.Plain) (call : c.Plain) :
    (Osb.perform self c w).2.Plain where
  instances id item row := by
    rw [perform_instances] at row
    exact RowChange.apply_writes (call.onInstance id) (plain.instances id) row
  bindings pair item row := by
    rw [perform_bindings] at row
    exact RowChange.apply_writes (call.onBinding pair) (plain.bindings pair) row
  tasks queue m payload d member body parameters := by
    rw [perform_tasks] at member
    rcases List.mem_append.mp member with old | new
    · exact plain.tasks queue m payload d old body parameters
    · exact call.sent new body parameters

theorem Aws.Plain.run {α : Type} {t : Handler α} (plain : w.Plain) (calls : t.Calls Call.Plain) :
    (t.run (Osb.perform self) w).2.Plain :=
  run_keeps (I := Aws.Plain) _ calls (fun _ _ call here => here.perform call) plain

theorem plain_app (plain : request.Plain)
    (other : ∀ id payload incomplete, request ≠ .update id payload incomplete) :
    (app now request).Calls Call.Plain := by
  cases request with
  | provision id payload incomplete =>
      rw [app]
      split
      · refine calls_respond (calls_provisionInstance trivial plain.1 ?_)
        rintro d ⟨⟩
        exact plain.1
      · trivial
  | update id payload incomplete => exact absurd rfl (other id payload incomplete)
  | deprovision id service plan incomplete =>
      refine calls_respond (calls_deprovisionInstance trivial (fun u kept d written => ?_) ?_)
      · simp [kept] at written
      · rintro d ⟨⟩
  | bind id bid payload =>
      refine calls_respond (calls_bindInstance trivial trivial plain ?_)
      rintro d ⟨⟩
      exact plain
  | unbind id bid service plan =>
      refine (calls_app now _).mono fun c c_in => ?_
      cases c_in with
      | sendUnbind => rintro d ⟨⟩
      | _ => trivial
  | _ =>
      refine (calls_app now _).mono fun c c_in => ?_
      cases c_in <;> trivial

theorem updateQueued_calls {payload : UpdateRequest} {item : InstanceItem} {inst : Instance}
    (row : w.instances id = some item) :
    let transition := perform self (.updateInstance id (updateQueued now payload inst)) w
    w.updateQueued self now id payload item inst =
      (perform self (.sendMessage .provision (.update id payload.serviceId
        (planOr payload.planId inst.planId) (inst.parameters.merge payload.parameters)))
        transition.2).2 := by
  simp [Aws.updateQueued, perform, row]

theorem Aws.Plain.answer (plain : w.Plain) (request_plain : request.Plain) :
    (w.answer self now request).2.Plain := by
  by_cases updates : ∃ id payload incomplete, request = .update id payload incomplete
  · obtain ⟨id, payload, incomplete, rfl⟩ := updates
    cases incomplete with
    | false => exact answer_update_sync (w := w) ▸ plain
    | true =>
        cases row : w.instances id with
        | none => exact answer_update_absent row ▸ plain
        | some item =>
            rw [answer_update_present row]
            cases read : instanceFromItem id item with
            | error e => exact plain
            | ok inst =>
                have merged : (inst.parameters.merge payload.parameters).Plain := by
                  rw [(instanceFromItem_ok read).2.2.2.1]
                  exact (plain.instances id item row).merge request_plain
                show (w.updateQueued self now id payload item inst).Plain
                rw [updateQueued_calls row]
                refine (plain.perform ?_).perform ?_
                · rintro d ⟨⟩
                  exact merged
                · rintro d ⟨⟩
                  exact merged
  · rw [answer_snd]
    exact plain.run (plain_app request_plain fun id payload incomplete same =>
      updates ⟨id, payload, incomplete, same⟩)

theorem plain_transition {u : InstanceUpdate}
    (plain : ∀ d, u.parameters = some d → d.Plain) :
    (Call.updateInstance id u).Plain ∧ (Call.updateInstance id u).Storable := by
  refine ⟨plain, ?_⟩
  cases written : u.parameters with
  | none => simpa [Call.Storable, written] using Dict.Plain.empty.floatFree
  | some d => simpa [Call.Storable, written] using (plain d written).floatFree

theorem plain_handle {m : Message}
    (plain : ∀ payload d, m.body = .object payload → payload.parameters = some d → d.Plain) :
    (Worker.handle settings queue draws m).Calls fun c => c.Plain ∧ c.Storable := by
  obtain ⟨receipt, body⟩ := m
  cases body with
  | malformed text => exact calls_invoke ⟨trivial, trivial⟩
  | scalar value => trivial
  | object payload =>
      refine calls_bind (calls_attempt ?_) fun result => ?_
      · unfold Worker.dispatch
        split
        · refine calls_provision (fun _ _ _ => ⟨trivial, trivial⟩) fun id u _ kept => ?_
          exact plain_transition (by simp [kept])
        · refine calls_update (fun _ _ => ⟨trivial, trivial⟩) (fun _ _ _ => ⟨trivial, trivial⟩)
            fun id u _ written => ?_
          exact plain_transition (written ▸ fun d => plain payload d rfl)
        · refine calls_subscript fun id _ => ?_
          exact calls_bind (calls_invoke ⟨trivial, trivial⟩) fun _ =>
            calls_invoke ⟨trivial, trivial⟩
        · refine calls_subscript fun id _ => calls_subscript fun bid _ => ?_
          exact calls_invoke ⟨trivial, trivial⟩
        · exact calls_subscript fun _ _ => trivial
        · trivial
      · cases result with
        | error e => trivial
        | ok _ => exact calls_invoke ⟨trivial, trivial⟩

/-! ## Both models answer alike -/

theorem stored_plain (plain : w.Plain) {inst : Instance} {w' : Aws}
    (got : (InstanceStore.get id).run (perform self) w = (.ok inst, w')) :
    w' = w ∧ inst.parameters.Plain := by
  cases row : w.instances id with
  | none => simp [run_get_none row] at got
  | some item =>
      rw [run_get_some row] at got
      obtain ⟨read, rfl⟩ := Prod.mk.inj got
      rw [(instanceFromItem_ok read).2.2.2.1]
      exact ⟨rfl, plain.instances id item row⟩

theorem storedBinding_plain (plain : w.Plain) {binding : Binding} {w' : Aws}
    (got : (BindingStore.get bid id).run (perform self) w = (.ok binding, w')) :
    w' = w ∧ binding.parameters.Plain := by
  cases row : w.bindings (bid, id) with
  | none => simp [run_getBinding_none row] at got
  | some item =>
      rw [run_getBinding_some row] at got
      obtain ⟨read, rfl⟩ := Prod.mk.inj got
      rw [bindingFromItem_parameters read]
      exact ⟨rfl, plain.bindings (bid, id) item row⟩

theorem respond_agrees {status : Nat} {route route' : Handler Body}
    (same : route.run (Codec.perform self) w = route'.run (perform self) w) :
    (respond status route).run (Codec.perform self) w =
      (respond status route').run (perform self) w := by
  rw [respond, run_bind, run_attempt, respond, run_bind, run_attempt, same]
  cases (route'.run (perform self) w).1 with
  | ok body => rfl
  | error e => cases e <;> rfl

theorem updateInstance_agrees {payload : UpdateRequest} {incomplete : Bool} (plain : w.Plain)
    (sent : payload.parameters.Plain) :
    (Codec.updateInstance now id payload incomplete).run (Codec.perform self) w =
      (updateInstance now id payload incomplete).run (perform self) w := by
  cases incomplete with
  | false => rfl
  | true =>
      refine run_bind_congr _ (InstanceStore.calls_get trivial) Codec.perform_storable ?_
      intro inst w' got
      obtain ⟨rfl, stored⟩ := stored_plain plain got
      have written := toTable_merge stored.floatFree sent.floatFree
      have queued := toJson_merge_iff.mpr fun key v (_ : key ∉ payload.parameters) value =>
        stored.intFree.lookup value
      have storable := stored.floatFree.merge sent.floatFree
      simp [PyDict.write, written, queued, InstanceStore.transition, TaskQueue.send,
        Codec.perform, Call.Storable, storable]

theorem fetchInstance_agrees (plain : w.Plain) :
    (Codec.fetchInstance id).run (Codec.perform self) w =
      (fetchInstance id).run (perform self) w := by
  refine run_bind_congr _ (InstanceStore.calls_get trivial) Codec.perform_storable ?_
  intro inst w' got
  obtain ⟨rfl, stored⟩ := stored_plain plain got
  simp [PyDict.write, toResponse_read_iff.mpr stored.intFree]

theorem fetchBinding_agrees (plain : w.Plain) :
    (Codec.fetchBinding id bid).run (Codec.perform self) w =
      (fetchBinding id bid).run (perform self) w := by
  refine run_bind_congr _ (BindingStore.calls_get trivial) Codec.perform_storable ?_
  intro binding w' got
  obtain ⟨rfl, stored⟩ := storedBinding_plain plain got
  simp [PyDict.write, toResponse_read_iff.mpr stored.intFree]

theorem answer_agrees (plain : w.Plain) (sent : request.Plain) :
    Codec.answer w self now request = w.answer self now request := by
  cases request with
  | provision id payload incomplete =>
      exact Codec.answer_provision_storable sent.1.floatFree sent.2 w
  | update id payload incomplete =>
      exact Codec.answer_of_run (respond_agrees (updateInstance_agrees plain sent))
  | fetchInstance id => exact Codec.answer_of_run (respond_agrees (fetchInstance_agrees plain))
  | fetchBinding id bid => exact Codec.answer_of_run (respond_agrees (fetchBinding_agrees plain))
  | bind id bid payload =>
      refine Codec.answer_storable rfl ?_ w
      exact calls_respond (calls_bindInstance trivial trivial sent.floatFree trivial)
  | deprovision id service plan incomplete =>
      refine Codec.answer_storable rfl (calls_respond ?_) w
      refine calls_deprovisionInstance trivial (fun u kept => ?_) trivial
      exact (plain_transition (by simp [kept])).2
  | _ =>
      refine Codec.answer_storable rfl ((calls_app now _).mono fun c c_in => ?_) w
      cases c_in <;> trivial

/-! ## Both models step alike -/

def Step.Plain : Step → Prop
  | .request request _ _ => request.Plain
  | .work _ _ => True

theorem Aws.Plain.setTasks (plain : w.Plain) {m : Message} {rest : List Message}
    (tasks : w.tasks queue = m :: rest) : (w.setTasks queue rest).Plain := by
  refine ⟨?_, ?_, fun queue' m' payload d member body parameters => ?_⟩
  · cases queue <;> exact plain.instances
  · cases queue <;> exact plain.bindings
  · have old : m' ∈ w.tasks queue' := by
      cases queue <;> cases queue' <;> simp_all [Aws.tasks, Aws.setTasks]
    exact plain.tasks queue' m' payload d old body parameters

theorem step_agrees {s : Broker} {i : Step} (plain : s.aws.Plain) (sent : i.Plain) :
    Codec.step settings s i = s.step settings i ∧ (s.step settings i).aws.Plain := by
  cases i with
  | request request serial now =>
      exact ⟨by rw [Codec.step, Broker.step, answer_agrees plain sent], plain.answer sent⟩
  | work queue draws =>
      cases tasks : s.aws.tasks queue with
      | nil => simpa [Codec.step, Broker.step, tasks] using plain
      | cons m rest =>
          have calls : (Worker.handle settings queue draws m).Calls fun c =>
              c.Plain ∧ c.Storable :=
            plain_handle fun payload d => plain.tasks queue m payload d (by simp [tasks])
          have same := @Codec.run_storable m.receiptHandle _ _
            (calls.mono fun _ call => call.2) (s.aws.setTasks queue rest)
          rw [Codec.step, Broker.step, tasks]
          refine ⟨congrArg (fun result => (⟨result.2, _⟩ : Broker)) same, ?_⟩
          exact (plain.setTasks tasks).run (calls.mono fun _ call => call.1)

theorem runs_agree (settings : Settings) {steps : List Step} (plain : ∀ i ∈ steps, i.Plain) :
    Codec.after settings steps = Broker.after settings steps := by
  have agree : ∀ s i, s.aws.Plain → i.Plain →
      Codec.step settings s i = s.step settings i ∧ (s.step settings i).aws.Plain :=
    fun s i here sent => step_agrees here sent
  refine Machine.exec_congr (I := fun s : Broker => s.aws.Plain) _ agree ?_ plain
  refine ⟨fun id item row => ?_, fun pair item row => ?_, fun queue m payload d member => ?_⟩
  · cases row
  · cases row
  · cases queue <;> cases member

end Regnant.Osb
