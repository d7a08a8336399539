import Regnant.Osb.Codec
import Regnant.Proof.Effects
import Regnant.Proof.Footprint

namespace Regnant.Osb
open CallTree

section RoundTrip
variable {number : Int → PyValue} {decimal : Int → Option Value} {float : PyFloat → Option Value}

mutual

theorem write_load_iff : ∀ v : Value, (v.load number).write decimal float = some v ↔
    v.all (fun n => (number n).write decimal float = some (.int n))
      (fun x => float x = some (.float x))
  | .none => by simp [Value.load, PyValue.write, Value.all]
  | .bool b => by simp [Value.load, PyValue.write, Value.all]
  | .int n => by simp [Value.load, Value.all]
  | .float x => by simp [Value.load, PyValue.write, Value.all]
  | .str s => by simp [Value.load, PyValue.write, Value.all]
  | .list items => by simp [Value.load, PyValue.write, Value.all, writeItems_load_iff items]
  | .dict items => by simp [Value.load, PyValue.write, Value.all, writeMembers_load_iff items]

theorem writeItems_load_iff : ∀ items : List Value,
    PyValue.writeItems decimal float (Value.loadItems number items) = some items ↔
      Value.allItems (fun n => (number n).write decimal float = some (.int n))
        (fun x => float x = some (.float x)) items
  | [] => by simp [Value.loadItems, PyValue.writeItems, Value.allItems]
  | v :: items => by
      have here := write_load_iff v
      have rest := writeItems_load_iff items
      simp [Value.loadItems, PyValue.writeItems, Value.allItems, ← here, ← rest,
        Option.bind_eq_some_iff]

theorem writeMembers_load_iff : ∀ items : List (String × Value),
    PyValue.writeMembers decimal float (Value.loadMembers number items) = some items ↔
      Value.allMembers (fun n => (number n).write decimal float = some (.int n))
        (fun x => float x = some (.float x)) items
  | [] => by simp [Value.loadMembers, PyValue.writeMembers, Value.allMembers]
  | (key, v) :: items => by
      have here := write_load_iff v
      have rest := writeMembers_load_iff items
      simp [Value.loadMembers, PyValue.writeMembers, Value.allMembers, ← here, ← rest,
        Option.bind_eq_some_iff]

end

end RoundTrip

mutual

theorem Value.all_true : ∀ v : Value, v.all (fun _ => true) (fun _ => true)
  | .none => by simp [Value.all]
  | .bool b => by simp [Value.all]
  | .int n => by simp [Value.all]
  | .float x => by simp [Value.all]
  | .str s => by simp [Value.all]
  | .list items => by simp [Value.all, Value.allItems_true items]
  | .dict items => by simp [Value.all, Value.allMembers_true items]

theorem Value.allItems_true : ∀ items : List Value,
    Value.allItems (fun _ => true) (fun _ => true) items
  | [] => by simp [Value.allItems]
  | v :: items => by simp [Value.allItems, Value.all_true v, Value.allItems_true items]

theorem Value.allMembers_true : ∀ items : List (String × Value),
    Value.allMembers (fun _ => true) (fun _ => true) items
  | [] => by simp [Value.allMembers]
  | (_, v) :: items => by simp [Value.allMembers, Value.all_true v, Value.allMembers_true items]

end

theorem Value.toTable_fromTable {v : Value} : v.fromTable.toTable = some v ↔ v.FloatFree := by
  simp [write_load_iff, PyValue.write, Value.FloatFree]

theorem Value.toTable_fromJson {v : Value} : v.fromJson.toTable = some v ↔ v.FloatFree := by
  simp [write_load_iff, PyValue.write, Value.FloatFree]

theorem Value.toJson_fromTable {v : Value} : v.fromTable.toJson = some v ↔ v.IntFree := by
  simp [write_load_iff, PyValue.write, Value.IntFree]

theorem Value.toJson_fromJson (v : Value) : v.fromJson.toJson = some v := by
  simp [write_load_iff, PyValue.write, Value.all_true v]

theorem Value.toResponse_fromTable {v : Value} :
    v.fromTable.toResponse = some v ↔ v.IntFree := by
  simp [write_load_iff, PyValue.write, Value.IntFree]

section Dictionaries
variable {d stored sent : Dict} {write : PyValue → Option Value}

theorem Dict.forall_entries {P : Value → Prop} :
    (∀ e ∈ d.entries, P e.2) ↔ ∀ key v, d.lookup key = some v → P v := by
  simp only [Finmap.lookup_eq_some_iff]
  exact ⟨fun all key v member => all ⟨key, v⟩ member, fun all e member => all e.1 e.2 member⟩

theorem Dict.lookup_read (f : Value → PyValue) (key : String) :
    (d.read f).lookup key = (d.lookup key).map f := by
  rw [Dict.read, Finmap.lookup_filterMapValues, Option.map_eq_bind]
  rfl

theorem traverse_read_iff {f : Value → PyValue} :
    Finmap.traverse write (d.read f) = some d ↔
      ∀ key v, d.lookup key = some v → write (f v) = some v := by
  rw [Finmap.traverse_eq_some_iff]
  refine forall_congr' fun key => ?_
  rw [Dict.lookup_read]
  cases value : d.lookup key with
  | none => simp
  | some v => simp

theorem traverse_merge_iff :
    Finmap.traverse write ((stored.read Value.fromTable).merge (sent.read Value.fromJson)) =
        some (stored.merge sent) ↔
      (∀ key v, sent.lookup key = some v → write v.fromJson = some v) ∧
        ∀ key v, key ∉ sent → stored.lookup key = some v → write v.fromTable = some v := by
  rw [Finmap.traverse_eq_some_iff, ← forall_and]
  refine forall_congr' fun key => ?_
  rw [PyDict.merge, Finmap.lookup_union_or, Dict.lookup_merge, Dict.lookup_read, Dict.lookup_read]
  cases above : sent.lookup key with
  | none => cases below : stored.lookup key <;> simp [← Finmap.lookup_eq_none, above]
  | some v => simp [← Finmap.lookup_eq_none, above]

theorem toTable_merge (stored_free : stored.FloatFree) (sent_free : sent.FloatFree) :
    Finmap.traverse PyValue.toTable
        ((stored.read Value.fromTable).merge (sent.read Value.fromJson)) =
      some (stored.merge sent) := by
  refine traverse_merge_iff.mpr ⟨fun key v value => ?_, fun key v _ value => ?_⟩
  · exact Value.toTable_fromJson.mpr (Dict.forall_entries.mp sent_free key v value)
  · exact Value.toTable_fromTable.mpr (Dict.forall_entries.mp stored_free key v value)

theorem toJson_merge_iff :
    Finmap.traverse PyValue.toJson
          ((stored.read Value.fromTable).merge (sent.read Value.fromJson)) =
        some (stored.merge sent) ↔
      ∀ key v, key ∉ sent → stored.lookup key = some v → v.IntFree := by
  rw [traverse_merge_iff, and_iff_right fun key v _ => v.toJson_fromJson]
  simp only [Value.toJson_fromTable]

theorem toResponse_read_iff :
    Finmap.traverse PyValue.toResponse (d.read Value.fromTable) = some d ↔ d.IntFree := by
  rw [traverse_read_iff, Dict.IntFree, Dict.forall_entries]
  simp only [Value.toResponse_fromTable]

theorem Dict.FloatFree.merge (stored_free : stored.FloatFree) (sent_free : sent.FloatFree) :
    (stored.merge sent).FloatFree := by
  refine Dict.forall_entries.mpr fun key v value => ?_
  rw [Dict.lookup_merge, Option.or_eq_some_iff] at value
  rcases value with value | ⟨-, value⟩
  · exact Dict.forall_entries.mp sent_free key v value
  · exact Dict.forall_entries.mp stored_free key v value

end Dictionaries

namespace Codec
open Function (update)

variable {self : ExecutionName} {now id : String} {w : Aws} {item : InstanceItem}
  {inst : Instance} {payload : UpdateRequest}

theorem perform_storable (c : Call) (w : Aws) (storable : c.Storable) :
    perform self c w = Osb.perform self c w :=
  if_pos storable

theorem run_storable {α : Type} {t : Handler α} (calls : t.Calls Call.Storable) (w : Aws) :
    t.run (perform self) w = t.run (Osb.perform self) w :=
  run_congr _ calls perform_storable w

theorem answer_of_run {request : Request}
    (same : (app now request).run (perform self) w =
      (Osb.app now request).run (Osb.perform self) w) :
    answer w self now request = w.answer self now request := by
  unfold answer
  rw [same]
  rfl

theorem answer_storable {request : Request} (same : app now request = Osb.app now request)
    (calls : (Osb.app now request).Calls Call.Storable) (w : Aws) :
    answer w self now request = w.answer self now request := by
  refine answer_of_run ?_
  rw [same, run_storable calls]

theorem answer_provision_storable {payload : ProvisionRequest} {incomplete : Bool}
    (parameters : payload.parameters.FloatFree) (context : payload.context.FloatFree) (w : Aws) :
    answer w self now (.provision id payload incomplete) =
      w.answer self now (.provision id payload incomplete) := by
  refine answer_storable rfl ?_ w
  rw [Osb.app]
  split
  · exact calls_respond (calls_provisionInstance trivial ⟨parameters, context⟩ trivial)
  · trivial

theorem run_get (id : String) (w : Aws) :
    (InstanceStore.get id).run (perform self) w = (InstanceStore.get id).run (Osb.perform self) w :=
  run_storable (InstanceStore.calls_get trivial) w

theorem run_getOrNone (id : String) (w : Aws) :
    (InstanceStore.getOrNone id).run (perform self) w =
      (InstanceStore.getOrNone id).run (Osb.perform self) w :=
  run_storable (InstanceStore.calls_getOrNone trivial) w

theorem answer_provision_refused {payload : ProvisionRequest} (valid : validInstanceId id)
    (absent : w.instances id = none)
    (floats : ¬(payload.parameters.FloatFree ∧ payload.context.FloatFree)) :
    answer w self now (.provision id payload true) = (⟨500, .serverError⟩, w) := by
  simp [answer, app, Osb.app, valid, respond, provisionInstance, run_getOrNone,
    run_getOrNone_none absent, InstanceStore.create, perform, Call.Storable,
    InstanceStore.newItem, floats]

theorem answer_fetchInstance_present (present : w.instances id = some item)
    (read : instanceFromItem id item = .ok inst) :
    answer w self now (.fetchInstance id) =
      match Finmap.traverse PyValue.toResponse (inst.parameters.read Value.fromTable) with
      | some shown =>
          (⟨200, .fetchInstance inst.serviceId inst.planId inst.dashboardUrl shown⟩, w)
      | none => (⟨500, .serverError⟩, w) := by
  cases shown : Finmap.traverse PyValue.toResponse (inst.parameters.read Value.fromTable) with
  | none =>
      simp [answer, app, respond, fetchInstance, run_get, run_get_some present, read,
        PyDict.write, shown]
  | some d =>
      simp [answer, app, respond, fetchInstance, run_get, run_get_some present, read,
        PyDict.write, shown]

theorem answer_update_present (present : w.instances id = some item)
    (read : instanceFromItem id item = .ok inst) (stored : inst.parameters.FloatFree)
    (sent : payload.parameters.FloatFree) :
    answer w self now (.update id payload true) =
      let row := update w.instances id (some ((updateQueued now payload inst).apply item))
      match Finmap.traverse PyValue.toJson ((inst.parameters.read Value.fromTable).merge
        (payload.parameters.read Value.fromJson)) with
      | some queued =>
          (⟨202, .operation "update"⟩, { w with
            instances := row
            provisionTasks := w.provisionTasks ++ [⟨self, .object (.update id payload.serviceId
              (planOr payload.planId inst.planId) queued)⟩] })
      | none => (⟨500, .serverError⟩, { w with instances := row }) := by
  have written := toTable_merge stored sent
  have storable : (inst.parameters.merge payload.parameters).FloatFree := stored.merge sent
  cases queued : Finmap.traverse PyValue.toJson ((inst.parameters.read Value.fromTable).merge
    (payload.parameters.read Value.fromJson)) with
  | none =>
      simp [answer, app, respond, updateInstance, run_get, run_get_some present, read,
        PyDict.write, written, queued, InstanceStore.transition, perform, Osb.perform,
        Call.Storable, storable, present, updateQueued]
  | some d =>
      simp [answer, app, respond, updateInstance, run_get, run_get_some present, read,
        PyDict.write, written, queued, InstanceStore.transition, TaskQueue.send, perform,
        Osb.perform, Call.Storable, storable, present, updateQueued]

end Codec

end Regnant.Osb
