import Regnant.Proof.Effects
import Regnant.Spec.Reference

namespace Regnant.Osb
open Function (update update_self update_of_ne)

structure InstanceItem.Holds (settings : Settings) (id : String) (item : InstanceItem)
    (record : Record) : Prop where
  serviceId : item.serviceId = some record.serviceId
  planId : item.planId = some record.planId
  parameters : item.parameters = some record.parameters
  context : item.context = some record.context
  state : item.state = some .available
  artifactKey : item.artifactKey = some (settings.artifactKey id)
  createdAt : item.createdAt.isSome
  updatedAt : item.updatedAt.isSome

/-- The tables and the bucket are those of the reference broker, and nothing waits. -/
structure Aws.Mirrors (settings : Settings) (w : Aws) (r : Reference) : Prop where
  rows : ∀ id, Option.Rel (InstanceItem.Holds settings id) (w.instances id) (r.records id)
  artifacts : ∀ id, w.bucket (settings.artifactKey id) = r.published id
  others : ∀ key, w.bucket key ≠ none → ∃ id, key = settings.artifactKey id
  bindings : w.bindings = Aws.empty.bindings
  provisionTasks : w.provisionTasks = []

variable {settings : Settings} {w w' : Aws} {r : Reference} {id : String} {item : InstanceItem}
  {record : Record} {draws : Nat → Draws} {message : Message}

theorem Aws.Mirrors.empty (settings : Settings) : Aws.empty.Mirrors settings .init :=
  ⟨fun _ => .none, fun _ => rfl, fun _ some => absurd rfl some, rfl, rfl⟩

theorem Aws.Mirrors.absent (mirrors : w.Mirrors settings r) (absent : r.records id = none) :
    w.instances id = none := by
  have row := mirrors.rows id
  rw [absent] at row
  cases row' : w.instances id with
  | none => rfl
  | some item =>
      rw [row'] at row
      cases row

theorem Aws.Mirrors.present (mirrors : w.Mirrors settings r)
    (present : r.records id = some record) :
    ∃ item, w.instances id = some item ∧ item.Holds settings id record := by
  have row := mirrors.rows id
  rw [present] at row
  cases row' : w.instances id with
  | none =>
      rw [row'] at row
      cases row
  | some item =>
      rw [row'] at row
      cases row with
      | some holds => exact ⟨item, rfl, holds⟩

theorem InstanceItem.Holds.read (holds : item.Holds settings id record) :
    ∃ inst, instanceFromItem id item = .ok inst ∧ inst.serviceId = record.serviceId ∧
      inst.planId = record.planId ∧ inst.parameters = record.parameters := by
  obtain ⟨inst, read⟩ : ∃ inst, instanceFromItem id item = .ok inst := by
    rw [instanceFromItem_isOk, holds.serviceId, holds.planId, holds.state]
    exact ⟨rfl, rfl, rfl, holds.createdAt, holds.updatedAt⟩
  obtain ⟨service, plan, -, parameters, -⟩ := instanceFromItem_ok read
  refine ⟨inst, read, ?_, ?_, ?_⟩
  · exact Option.some.inj (service.symm.trans holds.serviceId)
  · exact Option.some.inj (plan.symm.trans holds.planId)
  · rw [parameters, holds.parameters, Option.getD_some]

theorem Aws.Mirrors.write (mirrors : w.Mirrors settings r) {row : Option InstanceItem}
    {stored : Option Record} {artifact : Option Value}
    (holds : Option.Rel (InstanceItem.Holds settings id) row stored)
    (rows : w'.instances = update w.instances id row)
    (artifacts : w'.bucket = update w.bucket (settings.artifactKey id) artifact)
    (bindings : w'.bindings = w.bindings) (tasks : w'.provisionTasks = []) :
    w'.Mirrors settings ⟨update r.records id stored, update r.published id artifact⟩ := by
  refine ⟨fun id' => ?_, fun id' => ?_, fun key written => ?_, bindings.trans mirrors.bindings,
    tasks⟩
  · by_cases same : id' = id
    · subst same
      simpa only [rows, update_self] using holds
    · simpa only [rows, update_of_ne same] using mirrors.rows id'
  · by_cases same : id' = id
    · subst same
      simp only [artifacts, update_self]
    · simpa only [artifacts, update_of_ne (settings.artifactKey_injective.ne same),
        update_of_ne same] using mirrors.artifacts id'
  · by_cases same : key = settings.artifactKey id
    · exact ⟨id, same⟩
    · rw [artifacts, update_of_ne same] at written
      exact mirrors.others key written

theorem Aws.Mirrors.publish (mirrors : w.Mirrors settings r) {service : String} {document : Value}
    (rendered : renderResources id service record.planId record.parameters = .ok document)
    (holds : item.Holds settings id record)
    (rows : w'.instances = update w.instances id (some item))
    (artifacts : w'.bucket = update w.bucket (settings.artifactKey id) (some document))
    (bindings : w'.bindings = w.bindings) (tasks : w'.provisionTasks = []) :
    w'.Mirrors settings (r.publish id service record) := by
  have written := mirrors.write (.some holds) rows artifacts bindings tasks
  rwa [Reference.publish, rendered]

theorem InstanceItem.Holds.provisioned (settings : Settings) (now now' id : String)
    (payload : ProvisionRequest) :
    ((provisioned settings now' id).apply (InstanceStore.newItem now payload.serviceId
      payload.planId payload.parameters payload.context)).Holds settings id
      ⟨payload.serviceId, payload.planId, payload.parameters, payload.context⟩ :=
  ⟨rfl, rfl, rfl, rfl, rfl, rfl, rfl, rfl⟩

theorem InstanceItem.Holds.updated (holds : item.Holds settings id record)
    (payload : UpdateRequest) (queued : InstanceUpdate) (now : String) :
    ((updated settings now id (Reference.patched record payload).planId
      (Reference.patched record payload).parameters).apply (queued.apply item)).Holds settings id
      (Reference.patched record payload) :=
  ⟨holds.serviceId, rfl, rfl, holds.context, rfl, rfl, holds.createdAt, rfl⟩

theorem patched_planId (record : Record) (payload : UpdateRequest) :
    planOr payload.planId record.planId = (Reference.patched record payload).planId := by
  cases named : payload.planId with
  | none => simp [planOr, Reference.patched, named]
  | some plan =>
      by_cases empty : plan = "" <;> simp [planOr, Reference.patched, named, empty, Option.filter]

theorem patched_parameters (record : Record) (payload : UpdateRequest) :
    record.parameters.merge payload.parameters = (Reference.patched record payload).parameters :=
  Finmap.ext_lookup fun key => by rw [Dict.lookup_merge, Reference.lookup_patched]

theorem drain_none (empty : w.provisionTasks = []) :
    w.drain settings draws w.provisionTasks.length = w := by
  simp [empty, Aws.drain]

theorem drain_single (single : w.provisionTasks = [message]) :
    w.drain settings draws w.provisionTasks.length =
      (w.setTasks .provision []).handle settings .provision (draws 0) message := by
  simp [single, Aws.drain]

variable {valid : { id // validInstanceId id }} {serial : Nat} {now : String}

theorem serve_put (mirrors : w.Mirrors settings r) {payload : ProvisionRequest}
    (renders : r.Renders (.put valid payload)) :
    let served := w.serve settings ⟨.put valid payload, serial, now, draws⟩
    served.1 = (r.step (.put valid payload)).1 ∧
      served.2.Mirrors settings (r.step (.put valid payload)).2 := by
  obtain ⟨id, valid⟩ := valid
  simp only [Aws.serve, InstanceRequest.request, Request.instanceId, Reference.step]
  cases stored : r.records id with
  | none =>
      obtain ⟨document, rendered⟩ := renders_iff.mp (renders stored)
      have single : (w.created ⟨id, serial⟩ now id payload).provisionTasks =
          [⟨⟨id, serial⟩, .object (.provision id payload)⟩] := by
        simp [Aws.created, mirrors.provisionTasks]
      rw [answer_provision_absent valid (mirrors.absent stored), drain_single single,
        handle_provision rendered]
      refine ⟨rfl, mirrors.publish rendered (.provisioned settings now (draws 0).now id payload) ?_
        rfl rfl rfl⟩
      simp [Aws.acknowledged, Aws.published, Aws.setTasks, Aws.created]
  | some record =>
      obtain ⟨item, present, holds⟩ := mirrors.present stored
      obtain ⟨inst, read, service, plan, -⟩ := holds.read
      rw [answer_provision_present valid present, read]
      dsimp only
      rw [drain_none mirrors.provisionTasks, service, plan]
      split
      · exact ⟨rfl, mirrors⟩
      · exact ⟨rfl, mirrors⟩

theorem serve_patch (mirrors : w.Mirrors settings r) {payload : UpdateRequest}
    (renders : r.Renders (.patch valid payload)) :
    let served := w.serve settings ⟨.patch valid payload, serial, now, draws⟩
    served.1 = (r.step (.patch valid payload)).1 ∧
      served.2.Mirrors settings (r.step (.patch valid payload)).2 := by
  obtain ⟨id, valid⟩ := valid
  simp only [Aws.serve, InstanceRequest.request, Request.instanceId, Reference.step]
  cases stored : r.records id with
  | none =>
      rw [answer_update_absent (mirrors.absent stored), drain_none mirrors.provisionTasks]
      exact ⟨rfl, mirrors⟩
  | some record =>
      -- the message carries the merged row, so the worker publishes what the reference does
      obtain ⟨item, present, holds⟩ := mirrors.present stored
      obtain ⟨inst, read, -, plan, parameters⟩ := holds.read
      obtain ⟨document, rendered⟩ := renders_iff.mp (renders record stored)
      have single : (w.updateQueued ⟨id, serial⟩ now id payload item inst).provisionTasks =
          [⟨⟨id, serial⟩, .object (.update id payload.serviceId
            (Reference.patched record payload).planId
            (Reference.patched record payload).parameters)⟩] := by
        simp [Aws.updateQueued, mirrors.provisionTasks, plan, parameters, patched_planId,
          patched_parameters]
      have queued : ((w.updateQueued ⟨id, serial⟩ now id payload item inst).setTasks .provision
          []).instances id = some ((updateQueued now payload inst).apply item) := by
        simp [Aws.updateQueued, Aws.setTasks]
      rw [answer_update_present present, read]
      dsimp only
      rw [drain_single single, handle_update queued (instanceFromItem_apply read _) rendered]
      refine ⟨rfl, mirrors.publish rendered
        (holds.updated payload (updateQueued now payload inst) (draws 0).now) ?_ rfl rfl rfl⟩
      simp [Aws.acknowledged, Aws.published, Aws.setTasks, Aws.updateQueued]

theorem serve_delete (mirrors : w.Mirrors settings r) {service plan : String} :
    let served := w.serve settings ⟨.delete valid service plan, serial, now, draws⟩
    served.1 = (r.step (.delete valid service plan)).1 ∧
      served.2.Mirrors settings (r.step (.delete valid service plan)).2 := by
  obtain ⟨id, valid⟩ := valid
  simp only [Aws.serve, InstanceRequest.request, Request.instanceId, Reference.step]
  cases stored : r.records id with
  | none =>
      rw [answer_deprovision_absent (mirrors.absent stored), drain_none mirrors.provisionTasks]
      exact ⟨rfl, mirrors⟩
  | some record =>
      obtain ⟨item, present, holds⟩ := mirrors.present stored
      obtain ⟨inst, read, service', plan', -⟩ := holds.read
      rw [answer_deprovision_present present, read]
      dsimp only
      rw [service', plan']
      split
      next same =>
        have single : (w.deprovisionQueued ⟨id, serial⟩ now id item).provisionTasks =
            [⟨⟨id, serial⟩, .object (.deprovision id)⟩] := by
          simp [Aws.deprovisionQueued, mirrors.provisionTasks]
        rw [drain_single single, handle_deprovision]
        refine ⟨rfl, mirrors.write .none ?_ rfl rfl rfl⟩
        simp [Aws.acknowledged, Aws.removed, Aws.setTasks, Aws.deprovisionQueued]
      next differ =>
        rw [drain_none mirrors.provisionTasks]
        exact ⟨rfl, mirrors⟩

theorem serve_simulates (round : Round) (mirrors : w.Mirrors settings r)
    (renders : r.Renders round.request) :
    (w.serve settings round).1 = (r.step round.request).1 ∧
      (w.serve settings round).2.Mirrors settings (r.step round.request).2 := by
  obtain ⟨request, serial, now, draws⟩ := round
  cases request with
  | put valid payload => exact serve_put mirrors renders
  | patch valid payload => exact serve_patch mirrors renders
  | delete valid service plan => exact serve_delete mirrors

/-- Served one at a time, requests get the responses of the reference broker and leave tables and
bucket that mirror it. -/
theorem broker_refines_reference (settings : Settings) (rounds : List Round)
    (renders : Machine.Along (fun r round => (Reference.serve r round).2)
      (fun r round => r.Renders round.request) .init rounds) :
    let served := Machine.trace (Aws.serve settings) .empty rounds
    let expected := Machine.trace Reference.serve .init rounds
    served.1 = expected.1 ∧ served.2.Mirrors settings expected.2 :=
  Machine.trace_simulates (Aws.serve settings) Reference.serve
    (fun _ _ round mirrors renders => serve_simulates round mirrors renders) (.empty settings)
    renders

def reusedId : List Round :=
  let id : { id // validInstanceId id } := ⟨"a", by decide⟩
  let round (request : InstanceRequest) : Round := ⟨request, 0, "now", fun _ => ⟨"now", "token"⟩⟩
  [.put id ⟨"s", "p", ∅, ∅⟩, .patch id ⟨"t", some "q", Finmap.singleton "x" (.str "1")⟩,
    .put id ⟨"s", "p", ∅, ∅⟩, .delete id "s" "p", .delete id "s" "q",
    .put id ⟨"s", "p", ∅, ∅⟩].map round

theorem reused_id_refines :
    (Machine.trace (Aws.serve {}) .empty reusedId).1.map Response.status =
        [202, 202, 409, 400, 200, 202] ∧
      (Machine.trace (Aws.serve {}) .empty reusedId).2.Mirrors {}
        (Machine.trace Reference.serve .init reusedId).2 := by
  obtain ⟨responses, mirrors⟩ := broker_refines_reference {} reusedId (by decide)
  exact ⟨by rw [responses]; decide, mirrors⟩

end Regnant.Osb
