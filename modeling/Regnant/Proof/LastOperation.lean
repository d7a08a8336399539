import Regnant.Proof.View

/-!
# Succeeded operations

The handling of an update message writes the plan and the parameters it rendered along with the
state `available`; that of a provision message does not. An instance whose last operation succeeded
serves what its row shows exactly in the runs in which no provision message is handled after a PATCH
changed what its row renders to.
-/

namespace Regnant.Osb
open Function (update_of_ne)

def Aws.Reports (w : Aws) (id : String) (state : OperationState) : Prop :=
  ∃ self now description, (w.answer self now (.instanceLastOperation id)).1 =
    ⟨200, .lastOperation state description⟩

def Aws.Succeeded (w : Aws) (id : String) : Prop :=
  ∃ self now description, (w.answer self now (.instanceLastOperation id)).1 =
    ⟨200, .lastOperation .succeeded description⟩

/-- The artifact under the key of the row is rendered from the plan and the parameters that the row
shows. -/
def Aws.Serves (w : Aws) (id : String) : Prop :=
  ∃ item inst document service, w.instances id = some item ∧ instanceFromItem id item = .ok inst ∧
    inst.artifactKey.bind w.bucket = some document ∧
    renderResources id service inst.planId inst.parameters = .ok document

def Aws.Truthful (w : Aws) : Prop :=
  ∀ id, w.Succeeded id → w.Serves id

/-- The handling of the message renders another document than the row does. -/
def Aws.Outdates (w : Aws) (p : Payload) : Prop :=
  ∃ id payload document item inst, p = .provision id payload ∧
    renderResources id payload.serviceId payload.planId payload.parameters = .ok document ∧
    w.instances id = some item ∧ instanceFromItem id item = .ok inst ∧
    renderResources id payload.serviceId inst.planId inst.parameters ≠ .ok document

def Broker.Outdated (s : Broker) : Step → Prop
  | .work .provision _ => ∃ m ∈ s.aws.provisionTasks.head?, ∃ p ∈ m.payload, s.aws.Outdates p
  | _ => False

theorem reports_iff {w : Aws} {id : String} {state : OperationState} :
    w.Reports id state ↔ ∃ item inst, w.instances id = some item ∧
      instanceFromItem id item = .ok inst ∧ inst.state.operationState = state := by
  unfold Aws.Reports
  cases row : w.instances id with
  | none =>
      simp [Aws.answer, app, respond, instanceLastOperation, run_get_none row,
        OsbErrorKind.statusCode]
  | some item =>
      cases read : instanceFromItem id item with
      | error e =>
          obtain ⟨key, rfl⟩ := instanceFromItem_error read
          simp [Aws.answer, app, respond, instanceLastOperation, run_get_some row, read]
      | ok inst =>
          simp only [Aws.answer, app, respond, instanceLastOperation, run_get_some row, read,
            CallTree.run_bind, CallTree.run_attempt, CallTree.pure_eq, CallTree.run_ret,
            Response.mk.injEq, Body.lastOperation.injEq, true_and]
          constructor
          · rintro ⟨self, now, description, reported, -⟩
            exact ⟨item, inst, rfl, read, reported⟩
          · rintro ⟨item', inst', same, read', reported⟩
            obtain rfl := Option.some.inj same
            obtain rfl : inst' = inst := Except.ok.inj (read'.symm.trans read)
            exact ⟨⟨id, 0⟩, "", _, reported, rfl⟩

theorem succeeded_iff {w : Aws} {id : String} :
    w.Succeeded id ↔ ∃ item inst, w.instances id = some item ∧ instanceFromItem id item = .ok inst ∧
      inst.state.operationState = .succeeded :=
  reports_iff

theorem render_metadata {id service plan : String} {parameters : Dict} {document : Value}
    (rendered : renderResources id service plan parameters = .ok document) :
    document.item "metadata" = .ok (.dict [
      ("instance_id", .str id), ("service_id", .str service), ("plan_id", .str plan)]) := by
  simp only [renderResources] at rendered
  cases port : ((parameters.lookup "listen_port").getD (.int 10000)).toInt with
  | error e => simp [port, bind, Except.bind] at rendered
  | ok listenPort =>
      simp only [port, bind, Except.bind, pure, Except.pure] at rendered
      repeat' split at rendered
      all_goals cases rendered
      all_goals rfl

theorem render_service {id service service' plan plan' : String} {parameters parameters' : Dict}
    {document : Value} (rendered : renderResources id service plan parameters = .ok document)
    (rendered' : renderResources id service' plan' parameters' = .ok document) :
    service = service' := by
  have same := (render_metadata rendered).symm.trans (render_metadata rendered')
  simp only [Except.ok.injEq, Value.dict.injEq, List.cons.injEq, Prod.mk.injEq,
    Value.str.injEq] at same
  exact same.2.1.2

def Aws.TruthfulAt (settings : Settings) (w : Aws) (id : String) : Prop :=
  ∀ item inst, w.instances id = some item → instanceFromItem id item = .ok inst →
    inst.state.operationState = .succeeded →
    item.artifactKey = some (settings.artifactKey id) ∧
      ∃ document service, w.bucket (settings.artifactKey id) = some document ∧
        renderResources id service inst.planId inst.parameters = .ok document

variable {settings : Settings} {self receipt : ExecutionName} {now id : String} {w w' : Aws}
  {payload : Payload} {request : Request} {response : Response}

theorem instanceFromItem_artifactKey {item : InstanceItem} {inst : Instance}
    (read : instanceFromItem id item = .ok inst) : inst.artifactKey = item.artifactKey := by
  obtain ⟨service, plan, state, parameters, context, created, updated⟩ := item
  cases service <;> cases plan <;> cases state <;> cases created <;> cases updated <;>
    simp only [instanceFromItem, require, bind, Except.bind, pure, Except.pure, Except.ok.injEq,
      reduceCtorEq] at read
  subst read
  rfl

theorem truthful_iff (shaped : w.Shaped settings) :
    w.Truthful ↔ ∀ id, w.TruthfulAt settings id := by
  constructor
  · intro truthful id item inst row read succeeded
    obtain ⟨item', inst', document, service, row', read', artifact, rendered⟩ :=
      truthful id (succeeded_iff.mpr ⟨item, inst, row, read, succeeded⟩)
    obtain rfl : item' = item := Option.some.inj (row'.symm.trans row)
    obtain rfl : inst' = inst := Except.ok.inj (read'.symm.trans read)
    rw [instanceFromItem_artifactKey read] at artifact
    rcases (shaped id item' row).key with none | key
    · simp [none] at artifact
    · exact ⟨key, document, service, by simpa [key] using artifact, rendered⟩
  · intro truthful id succeeded
    obtain ⟨item, inst, row, read, succeeded⟩ := succeeded_iff.mp succeeded
    obtain ⟨key, document, service, artifact, rendered⟩ := truthful id item inst row read succeeded
    refine ⟨item, inst, document, service, row, read, ?_, rendered⟩
    rw [instanceFromItem_artifactKey read, key, Option.bind_some, artifact]

theorem truthfulAt_others (truthful : ∀ id, w.TruthfulAt settings id)
    (rows : ∀ id', id' ≠ id → w'.instances id' = w.instances id')
    (artifacts : ∀ key, key ≠ settings.artifactKey id → w'.bucket key = w.bucket key)
    (own : w'.TruthfulAt settings id) : ∀ id, w'.TruthfulAt settings id := by
  intro id'
  by_cases same : id' = id
  · rwa [same]
  · unfold Aws.TruthfulAt
    rw [rows id' same, artifacts _ (settings.artifactKey_injective.ne same)]
    exact truthful id'

theorem truthfulAt_inProgress {item : InstanceItem} {state : InstanceState}
    (row : w.instances id = some item) (written : item.state = some state)
    (running : state.operationState ≠ .succeeded) : w.TruthfulAt settings id := by
  intro item' inst row' read succeeded
  obtain rfl : item' = item := Option.some.inj (row'.symm.trans row)
  obtain ⟨-, -, state', -⟩ := instanceFromItem_ok read
  obtain rfl : inst.state = state := Option.some.inj (state'.symm.trans written)
  exact absurd succeeded running

theorem truthful_answered (truthful : ∀ id, w.TruthfulAt settings id)
    (answered : Answered self now w request response w') : ∀ id, w'.TruthfulAt settings id := by
  cases answered with
  | created valid absent =>
      refine truthfulAt_others truthful (fun _ other => update_of_ne other _ _) (fun _ _ => rfl) ?_
      refine truthfulAt_inProgress (Function.update_self _ _ _) rfl ?_
      simp [InstanceState.operationState]
  | matched => exact truthful
  | updateQueued present read =>
      refine truthfulAt_others truthful (fun _ other => update_of_ne other _ _) (fun _ _ => rfl) ?_
      refine truthfulAt_inProgress (Function.update_self _ _ _) rfl ?_
      simp [updateQueued, InstanceState.operationState]
  | deprovisionQueued present read =>
      refine truthfulAt_others truthful (fun _ other => update_of_ne other _ _) (fun _ _ => rfl) ?_
      refine truthfulAt_inProgress (Function.update_self _ _ _) rfl ?_
      simp [deprovisionQueued, InstanceState.operationState]
  | other quiet same =>
      unfold Aws.TruthfulAt
      rwa [same.instances, same.bucket]

theorem truthful_published {queue : QueueName} (shaped : w.Shaped settings)
    (truthful : ∀ id, w.TruthfulAt settings id) (u : InstanceUpdate) {document : Value}
    {service plan : String} {parameters : Dict}
    (rendered : renderResources id service plan parameters = .ok document)
    (state : u.state = .available) (key : u.artifactKey = some (settings.artifactKey id)) :
    (∀ id', ((w.published settings id document u).acknowledged queue receipt).TruthfulAt settings
        id') ↔
      ∀ item inst, w.instances id = some item → instanceFromItem id item = .ok inst →
        renderResources id service (u.planId.getD inst.planId)
          (u.parameters.getD inst.parameters) = .ok document := by
  have row' : ((w.published settings id document u).acknowledged queue receipt).instances id =
      some (u.apply ((w.instances id).getD {})) := Function.update_self _ _ _
  have artifact : ((w.published settings id document u).acknowledged queue receipt).bucket
      (settings.artifactKey id) = some document := Function.update_self _ _ _
  constructor
  · intro all item inst row read
    have read' := instanceFromItem_apply read u
    rw [row, Option.getD_some] at row'
    obtain ⟨-, document', service', artifact', rendered'⟩ :=
      all id _ _ row' read' (by simp [state, InstanceState.operationState])
    obtain rfl : document = document' := Option.some.inj (artifact.symm.trans artifact')
    rwa [render_service rendered rendered']
  · intro same
    apply truthfulAt_others truthful (fun _ other => update_of_ne other _ _)
      (fun _ other => update_of_ne other _ _)
    intro item' inst' row'' read' succeeded
    obtain rfl := Option.some.inj (row'.symm.trans row'')
    refine ⟨by simp [InstanceUpdate.apply, key], document, service, artifact, ?_⟩
    cases row : w.instances id with
    | none =>
        -- the made row has no service, so it does not read back
        have service' := (instanceFromItem_ok read').1
        simp [row, InstanceUpdate.apply] at service'
    | some item =>
        rw [row, Option.getD_some] at read'
        have service' : item.serviceId.isSome := by
          have written := (instanceFromItem_ok read').1
          rw [show (u.apply item).serviceId = item.serviceId from rfl] at written
          simp [written]
        obtain ⟨inst, read⟩ := ((shaped id item row).whole service').read id
        obtain rfl := Except.ok.inj ((instanceFromItem_apply read u).symm.trans read')
        exact same item inst row read

theorem truthful_handled (shaped : w.Shaped settings) (truthful : ∀ id, w.TruthfulAt settings id)
    (handled : Handled settings now receipt w payload w') :
    (∀ id, w'.TruthfulAt settings id) ↔ ¬w.Outdates payload := by
  cases handled with
  | @provisioned id payload document rendered =>
      -- the transition leaves the plan and the parameters of the row as they are
      refine Iff.trans (truthful_published shaped truthful (provisioned settings now id) rendered
        rfl rfl) ?_
      constructor
      · rintro same ⟨id', payload', document', item, inst, own, rendered', row, read, differs⟩
        obtain ⟨rfl, rfl⟩ := Payload.provision_inj.mp own
        obtain rfl := Except.ok.inj (rendered.symm.trans rendered')
        exact differs (same item inst row read)
      · intro inTime item inst row read
        by_contra differs
        exact inTime ⟨id, payload, document, item, inst, rfl, rendered, row, read, differs⟩
  | @provisionFailed id payload fails =>
      refine iff_of_true truthful ?_
      rintro ⟨id', payload', document, item, inst, own, rendered, -⟩
      obtain ⟨rfl, rfl⟩ := Payload.provision_inj.mp own
      exact fails (renders_iff.mpr ⟨document, rendered⟩)
  | @updated id service plan parameters item inst document present read rendered =>
      -- the transition writes what was rendered
      refine iff_of_true ?_ (by simp [Aws.Outdates])
      exact (truthful_published shaped truthful (updated settings now id plan parameters) rendered
        rfl rfl).mpr fun _ _ _ _ => rendered
  | updateFailed => exact iff_of_true truthful (by simp [Aws.Outdates])
  | updateUnreadable => exact iff_of_true truthful (by simp [Aws.Outdates])
  | updateMissed => exact iff_of_true truthful (by simp [Aws.Outdates])
  | @deprovisioned id =>
      refine iff_of_true ?_ (by simp [Aws.Outdates])
      refine truthfulAt_others truthful (fun _ other => update_of_ne other _ _)
        (fun _ other => update_of_ne other _ _) fun item inst row => ?_
      simp [Aws.acknowledged, Aws.removed] at row

theorem truthful_step {s s' : Broker} {i : Step} (shaped : s.aws.Shaped settings)
    (truthful : ∀ id, s.aws.TruthfulAt settings id) (transition : Transition settings s i s') :
    (∀ id, s'.aws.TruthfulAt settings id) ↔ ¬s.Outdated i := by
  cases transition with
  | answered answered => exact iff_of_true (truthful_answered truthful answered) id
  | @handled _ _ payload rest _ head handled =>
      have shaped_rest : ({ s.aws with provisionTasks := rest } : Aws).Shaped settings := shaped
      refine Iff.trans (truthful_handled shaped_rest truthful handled) (not_congr ?_)
      rw [Broker.Outdated, head]
      simp [Message.payload, Aws.Outdates]
  | bindingHandled same =>
      refine iff_of_true ?_ id
      unfold Aws.TruthfulAt
      rwa [same.instances, same.bucket]
  | @idle queue _ empty =>
      refine iff_of_true truthful ?_
      cases queue with
      | provision =>
          rw [Broker.Outdated, show s.aws.provisionTasks = [] from empty]
          simp
      | binding => exact id

/-- 'succeeded' is true in every state of a run exactly when the run handles no provision message
that renders another document than the row. -/
theorem succeeded_truthful_iff (settings : Settings) (steps : List Step) :
    (∀ before, before <+: steps → (Broker.after settings before).aws.Truthful) ↔
      Machine.Along (Broker.step settings) (fun s i => ¬s.Outdated i) .init steps := by
  refine Machine.invariant_iff_along (I := fun s : Broker => s.aws.Truthful)
    (J := fun s : Broker => s.aws.Sorted ∧ s.aws.Shaped settings) _ ?_ ?_
    ⟨Aws.Sorted.init, .init settings⟩ ?_
  · rintro s i ⟨sorted, shaped⟩
    exact ⟨sorted.step i, shaped.transition (step_transition sorted i)⟩
  · rintro s i ⟨sorted, shaped⟩ truthful
    have transition : Transition settings s i (s.step settings i) := step_transition sorted i
    rw [truthful_iff (shaped.transition transition)]
    exact truthful_step shaped ((truthful_iff shaped).mp truthful) transition
  · rw [truthful_iff (.init settings)]
    exact fun id item inst row => by cases row

def overtaken : List Step :=
  let create : Step := .request (.provision "a" ⟨"s", "small", ∅, ∅⟩ true) 0 "now"
  let patch : Step := .request (.update "a" ⟨"s", some "large", ∅⟩ true) 1 "now"
  [create, patch, .work .provision ⟨"now", "token"⟩]

theorem succeeded_not_always_truthful :
    ¬∀ settings steps, (Broker.after settings steps).created.Nodup →
      (Broker.after settings steps).aws.Truthful := by
  intro always
  have succeeded : (Broker.after {} overtaken).aws.Succeeded "a" :=
    ⟨⟨"b", 0⟩, "now", some "provisioned", by decide⟩
  obtain ⟨item, inst, document, service, row, read, artifact, rendered⟩ :=
    always {} overtaken (by decide) "a" succeeded
  have shown : ((Broker.after {} overtaken).aws.instances "a").map (fun item =>
      (item.planId, item.artifactKey)) = some (some "large", some "envoy-resources/a.yaml") := by
    decide
  have served : ((Broker.after {} overtaken).aws.bucket "envoy-resources/a.yaml").map
      (·.item "metadata") = some (.ok (.dict [
        ("instance_id", .str "a"), ("service_id", .str "s"), ("plan_id", .str "small")])) := by
    decide
  simp only [row, Option.map_some, Option.some.injEq, Prod.mk.injEq] at shown
  have plan := (instanceFromItem_ok read).2.1
  rw [instanceFromItem_artifactKey read, shown.2, Option.bind_some] at artifact
  rw [artifact, Option.map_some, render_metadata rendered] at served
  simp_all

end Regnant.Osb
