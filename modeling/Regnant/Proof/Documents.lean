import Regnant.Osb.Schemas

/-!
# Bodies that the OpenAPI document promises

The document lets unknown members through and its `bind_resource` is any object; the models forbid
extra members and `BindResource` has two fields. A valid body is validated, with the values of the
documented members, exactly when none of its members is extra or of another type than the models'.
-/

namespace Regnant.Osb
open Schema

def Openapi.Valid (schema : ObjectSchema) (body : Value) : Prop :=
  ∃ items, body = .dict items ∧ schema.Valid items

def Attr.Same (given : Value) : Attr → Prop
  | .value v => v = given
  | .model attrs => ∃ items, given = .dict items ∧
      (∀ name v, items.lookup name = some v → attrs.lookup name = some v) ∧
      ∀ name v, attrs.lookup name = some v →
        items.lookup name = some v ∨ items.lookup name = none ∧ v = .none

/-- A valid body is validated, and the documented members keep their values. -/
def Model.Promised (schema : ObjectSchema) (model : Model) (body : Value) : Prop :=
  Openapi.Valid schema body → ∃ attrs, model.validate body = some attrs ∧
    ∀ p ∈ schema.properties, ∀ items v, body = .dict items → items.lookup p.1 = some v →
      ∃ attr, attrs.lookup p.1 = some attr ∧ attr.Same v

namespace Value

def IsDict (v : Value) : Prop :=
  ∃ items, v = .dict items

def IsStringOrNone (v : Value) : Prop :=
  v = .none ∨ ∃ s, v = .str s

def IsMaintenanceInfo (v : Value) : Prop :=
  v = .none ∨ ∃ items, v = .dict items ∧ (items.lookup "version").isSome = true ∧
    ∀ name x, items.lookup name = some x →
      name = "version" ∧ (∃ s, x = .str s) ∨ name = "description" ∧ x.IsStringOrNone

def IsBindResource (v : Value) : Prop :=
  ∃ items, v = .dict items ∧ ∀ name x, items.lookup name = some x →
    name ∈ ["app_guid", "route"] ∧ x.IsStringOrNone

def Members (P : String → Value → Prop) (body : Value) : Prop :=
  ∀ items, body = .dict items → ∀ name v, items.lookup name = some v → P name v

end Value

def ProvisionRequest.Takes (name : String) (v : Value) : Prop :=
  name ∈ ["service_id", "plan_id", "context", "parameters"] ∨
    name ∈ ["organization_guid", "space_guid"] ∧ v.IsStringOrNone ∨
    name = "maintenance_info" ∧ v.IsMaintenanceInfo

def UpdateRequest.Takes (name : String) (v : Value) : Prop :=
  name ∈ ["service_id", "plan_id", "parameters", "previous_values"] ∨
    name = "context" ∧ v.IsDict ∨
    name = "maintenance_info" ∧ v.IsMaintenanceInfo

def BindRequest.Takes (name : String) (v : Value) : Prop :=
  name ∈ ["service_id", "plan_id", "parameters"] ∨
    name = "context" ∧ v.IsDict ∨
    name = "bind_resource" ∧ v.IsBindResource

variable {schema : ObjectSchema} {model : Model} {body v : Value} {attr : Attr}
  {items : List (String × Value)} {fields : List (Field Leaf Value)}

theorem Leaf.check_some {type : Leaf} {x : Value} (read : type.check v = some x) : x = v := by
  cases type <;> cases v <;> simp_all [Leaf.check]

theorem check_str : (Leaf.str.check v).isSome = true ↔ ∃ s, v = .str s := by
  cases v <;> simp [Leaf.check]

theorem check_optionalStr : (Leaf.optionalStr.check v).isSome = true ↔ v.IsStringOrNone := by
  cases v <;> simp [Leaf.check, Value.IsStringOrNone]

theorem check_dict : (Leaf.dict.check v).isSome = true ↔ v.IsDict := by
  cases v <;> simp [Leaf.check, Value.IsDict]

theorem check_optionalDict :
    (Leaf.optionalDict.check v).isSome = true ↔ v = .none ∨ v.IsDict := by
  cases v <;> simp [Leaf.check, Value.IsDict]

theorem check_leaf {type : Leaf} :
    ((FieldType.leaf type).check v).isSome = (type.check v).isSome := by
  simp [FieldType.check]

theorem check_maintenanceInfo :
    ((FieldType.optionalModel CatalogPlanMaintenanceInfo.model).check v).isSome = true ↔
      v.IsMaintenanceInfo := by
  cases v with
  | dict items =>
      rw [FieldType.check, Option.isSome_map, readRecord_isSome (by decide), and_comm]
      simp [Value.IsMaintenanceInfo, CatalogPlanMaintenanceInfo.model, check_str,
        check_optionalStr, eq_comm (a := "version"), eq_comm (a := "description")]
  | _ => simp [FieldType.check, Value.IsMaintenanceInfo]

theorem check_bindResource :
    ((FieldType.optionalModel BindResource.model).check v).isSome = true ↔
      v = .none ∨ v.IsBindResource := by
  cases v with
  | dict items =>
      rw [FieldType.check, Option.isSome_map, readRecord_isSome (by decide)]
      simp [Value.IsBindResource, BindResource.model, check_optionalStr, or_and_right, or_and_right,
        exists_or, eq_comm (a := "app_guid"), eq_comm (a := "route")]
  | _ => simp [FieldType.check, Value.IsBindResource]

def FieldType.Plain : FieldType → Prop
  | .leaf _ => True
  | .optionalModel fields => (fields.map (·.name)).Nodup ∧
      ∀ f ∈ fields, f.default = none ∨ f.default = some .none

theorem same_of_check {type : FieldType} (plain : type.Plain)
    (passed : type.check v = some attr) : attr.Same v := by
  cases type with
  | leaf type =>
      obtain ⟨x, read, rfl⟩ := Option.map_eq_some_iff.mp passed
      exact Leaf.check_some read
  | optionalModel fields =>
      cases v with
      | none =>
          obtain rfl := Option.some.inj passed
          rfl
      | dict items =>
          obtain ⟨attrs, read, rfl⟩ := Option.map_eq_some_iff.mp passed
          obtain ⟨known, fieldsRead⟩ := readRecord_eq_some.mp read
          refine ⟨items, rfl, fun name v given => ?_, fun name v given => ?_⟩
          · obtain ⟨f, declared, rfl⟩ := known name v given
            have readable := readFields_isSome.mp (Option.isSome_iff_exists.mpr ⟨_, fieldsRead⟩) f
              declared
            rw [readRecord_lookup plain.1 read declared]
            simp only [Field.read, given] at readable ⊢
            obtain ⟨x, checked⟩ := Option.isSome_iff_exists.mp readable
            rw [checked, Leaf.check_some checked]
          · obtain ⟨f, declared, rfl⟩ := readRecord_names read given
            rw [readRecord_lookup plain.1 read declared, Field.read] at given
            cases member : items.lookup f.name with
            | some x =>
                rw [member] at given
                exact .inl (congrArg some (Leaf.check_some given).symm)
            | none =>
                rw [member] at given
                refine .inr ⟨rfl, ?_⟩
                rcases plain.2 f declared with required | optional
                · rw [required] at given
                  cases given
                · rw [optional] at given
                  exact (Option.some.inj given).symm
      | _ => cases passed

theorem promised_iff (distinct : (model.map (·.name)).Nodup)
    (asked : ∀ f ∈ model, f.default = none → f.name ∈ schema.required)
    (plain : ∀ f ∈ model, f.type.Plain) :
    model.Promised schema body ↔ (Openapi.Valid schema body → body.Members fun name v =>
      ∃ f ∈ model, f.name = name ∧ (f.type.check v).isSome = true) := by
  constructor
  · intro promised valid items same
    subst same
    obtain ⟨items', same, valid'⟩ := valid
    obtain rfl := Value.dict.inj same
    obtain ⟨attrs, read, -⟩ := promised ⟨items, rfl, valid'⟩
    exact (readRecord_of_valid distinct asked valid').mp (Option.isSome_iff_exists.mpr ⟨_, read⟩)
  · intro welcome valid
    obtain ⟨items, rfl, valid'⟩ := valid
    have members := welcome ⟨items, rfl, valid'⟩ items rfl
    obtain ⟨attrs, read⟩ := Option.isSome_iff_exists.mp
      ((readRecord_of_valid distinct asked valid').mpr members)
    refine ⟨attrs, read, fun p documented items' v same given => ?_⟩
    obtain rfl := Value.dict.inj same
    obtain ⟨f, declared, name, checked⟩ := members p.1 v given
    obtain ⟨attr, passed⟩ := Option.isSome_iff_exists.mp checked
    refine ⟨attr, ?_, same_of_check (plain f declared) passed⟩
    rw [← name] at given ⊢
    rw [readRecord_lookup distinct read declared, Field.read, given]
    exact passed

theorem valid_string : MemberSchema.string.Valid v ↔ ∃ s, v = .str s := by
  cases v <;> simp [MemberSchema.Valid, JsonValue.isString]

theorem valid_object : MemberSchema.object.Valid v ↔ v.IsDict := by
  cases v <;> simp [MemberSchema.Valid, JsonValue.members, Value.IsDict]

theorem promised_iff_takes {takes : String → Value → Prop} (distinct : (model.map (·.name)).Nodup)
    (asked : ∀ f ∈ model, f.default = none → f.name ∈ schema.required)
    (plain : ∀ f ∈ model, f.type.Plain)
    (same : ∀ items, schema.Valid items → ∀ name v, items.lookup name = some v →
      ((∃ f ∈ model, f.name = name ∧ (f.type.check v).isSome = true) ↔ takes name v)) :
    model.Promised schema body ↔ (Openapi.Valid schema body → body.Members takes) := by
  rw [promised_iff distinct asked plain]
  refine forall_congr' fun ⟨items', is', valid⟩ => ?_
  refine forall_congr' fun items => forall_congr' fun is => forall_congr' fun name =>
    forall_congr' fun v => forall_congr' fun given => ?_
  obtain rfl := Value.dict.inj (is'.symm.trans is)
  exact same _ valid name v given

theorem provisionRequest_promised_iff :
    ProvisionRequest.model.Promised Openapi.provisionRequest body ↔
      (Openapi.Valid Openapi.provisionRequest body → body.Members ProvisionRequest.Takes) := by
  refine promised_iff_takes (by decide) (by decide) ?_ fun items valid name v given => ?_
  · simp [ProvisionRequest.model, field, FieldType.Plain, CatalogPlanMaintenanceInfo.model]
  · have documented := valid.properties
    simp only [Openapi.provisionRequest, List.forall_mem_cons, valid_string, valid_object]
      at documented
    simp [ProvisionRequest.model, field, check_leaf, check_str, check_dict, check_optionalStr,
      check_maintenanceInfo, ProvisionRequest.Takes]
    grind

theorem updateRequest_promised_iff :
    UpdateRequest.model.Promised Openapi.updateRequest body ↔
      (Openapi.Valid Openapi.updateRequest body → body.Members UpdateRequest.Takes) := by
  refine promised_iff_takes (by decide) (by decide) ?_ fun items valid name v given => ?_
  · simp [UpdateRequest.model, field, FieldType.Plain, CatalogPlanMaintenanceInfo.model]
  · have documented := valid.properties
    simp only [Openapi.updateRequest, List.forall_mem_cons, valid_string, valid_object]
      at documented
    simp [UpdateRequest.model, field, check_leaf, check_str, check_dict, check_optionalStr,
      check_optionalDict, check_maintenanceInfo, UpdateRequest.Takes, Value.IsStringOrNone]
    grind

theorem bindRequest_promised_iff :
    BindRequest.model.Promised Openapi.bindRequest body ↔
      (Openapi.Valid Openapi.bindRequest body → body.Members BindRequest.Takes) := by
  refine promised_iff_takes (by decide) (by decide) ?_ fun items valid name v given => ?_
  · simp [BindRequest.model, field, FieldType.Plain, BindResource.model]
  · have documented := valid.properties
    simp only [Openapi.bindRequest, List.forall_mem_cons, valid_string, valid_object] at documented
    simp [BindRequest.model, field, check_leaf, check_str, check_dict, check_bindResource,
      BindRequest.Takes, Value.IsBindResource]
    grind [Value.IsDict]

section
variable {attrs : List (String × Attr)} {name : String} {default : Option Value} {type : Leaf}

theorem validate_leaf (distinct : (model.map (·.name)).Nodup)
    (read : model.validate body = some attrs) (declared : field name type default ∈ model) :
    ∃ v, attrs.lookup name = some (.value v) ∧
      ((∃ given, type.check given = some v) ∨ default = some v) := by
  cases body with
  | dict items =>
      have readable := readFields_isSome.mp
        (Option.isSome_iff_exists.mpr ⟨_, (readRecord_eq_some.mp read).2⟩) _ declared
      have same : attrs.lookup name = _ := readRecord_lookup distinct read declared
      rw [same]
      cases member : items.lookup name with
      | some given =>
          have reads : (field name type default).read FieldType.check items =
              (type.check given).map .value := by
            simp only [Field.read, field, member, FieldType.check]
          rw [reads, Option.isSome_map] at readable
          obtain ⟨v, passed⟩ := Option.isSome_iff_exists.mp readable
          exact ⟨v, by rw [reads, passed]; rfl, .inl ⟨given, passed⟩⟩
      | none =>
          have reads : (field name type default).read FieldType.check items =
              default.map .value := by
            simp only [Field.read, field, member]
          rw [reads, Option.isSome_map] at readable
          obtain ⟨v, rfl⟩ := Option.isSome_iff_exists.mp readable
          exact ⟨v, by rw [reads]; rfl, .inr rfl⟩
  | _ => cases read

theorem validate_str (name : String) (distinct : (model.map (·.name)).Nodup)
    (read : model.validate body = some attrs) (declared : field name .str none ∈ model) :
    ∃ s, attrString attrs name = some s := by
  obtain ⟨v, value, ⟨given, passed⟩ | default⟩ := validate_leaf distinct read declared
  · cases given with
    | str s =>
        obtain rfl := Option.some.inj passed
        exact ⟨s, by rw [attrString, value]⟩
    | _ => cases passed
  · cases default

theorem validate_optionalStr (name : String) (distinct : (model.map (·.name)).Nodup)
    (read : model.validate body = some attrs)
    (declared : field name .optionalStr (some .none) ∈ model) :
    ∃ s, attrOptionalString attrs name = some s := by
  obtain ⟨v, value, ⟨given, passed⟩ | default⟩ := validate_leaf distinct read declared
  · cases given with
    | str s =>
        obtain rfl := Option.some.inj passed
        exact ⟨some s, by rw [attrOptionalString, value]⟩
    | none =>
        obtain rfl := Option.some.inj passed
        exact ⟨none, by rw [attrOptionalString, value]⟩
    | _ => cases passed
  · obtain rfl := Option.some.inj default
    exact ⟨none, by rw [attrOptionalString, value]⟩

theorem validate_dict (name : String) (distinct : (model.map (·.name)).Nodup)
    (read : model.validate body = some attrs)
    (declared : field name .dict (some (.dict [])) ∈ model) :
    ∃ d, attrDict attrs name = some d := by
  obtain ⟨v, value, ⟨given, passed⟩ | default⟩ := validate_leaf distinct read declared
  · cases given with
    | dict items =>
        obtain rfl := Option.some.inj passed
        exact ⟨_, by rw [attrDict, value]; rfl⟩
    | _ => cases passed
  · obtain rfl := Option.some.inj default
    exact ⟨_, by rw [attrDict, value]; rfl⟩

end

theorem provisionRequest_parse :
    (ProvisionRequest.parse body).isSome = (ProvisionRequest.model.validate body).isSome := by
  cases read : ProvisionRequest.model.validate body with
  | none => simp [ProvisionRequest.parse, read]
  | some attrs =>
      have distinct : (ProvisionRequest.model.map (·.name)).Nodup := by decide
      obtain ⟨service, hasService⟩ := validate_str "service_id" distinct read
        (by simp [ProvisionRequest.model])
      obtain ⟨plan, hasPlan⟩ := validate_str "plan_id" distinct read
        (by simp [ProvisionRequest.model])
      obtain ⟨context, hasContext⟩ := validate_dict "context" distinct read
        (by simp [ProvisionRequest.model])
      obtain ⟨parameters, hasParameters⟩ := validate_dict "parameters" distinct read
        (by simp [ProvisionRequest.model])
      simp [ProvisionRequest.parse, read, hasService, hasPlan, hasContext, hasParameters]

theorem updateRequest_parse :
    (UpdateRequest.parse body).isSome = (UpdateRequest.model.validate body).isSome := by
  cases read : UpdateRequest.model.validate body with
  | none => simp [UpdateRequest.parse, read]
  | some attrs =>
      have distinct : (UpdateRequest.model.map (·.name)).Nodup := by decide
      obtain ⟨service, hasService⟩ := validate_str "service_id" distinct read
        (by simp [UpdateRequest.model])
      obtain ⟨plan, hasPlan⟩ := validate_optionalStr "plan_id" distinct read
        (by simp [UpdateRequest.model])
      obtain ⟨parameters, hasParameters⟩ := validate_dict "parameters" distinct read
        (by simp [UpdateRequest.model])
      simp [UpdateRequest.parse, read, hasService, hasPlan, hasParameters]

theorem bindRequest_parse :
    (BindRequest.parse body).isSome = (BindRequest.model.validate body).isSome := by
  cases read : BindRequest.model.validate body with
  | none => simp [BindRequest.parse, read]
  | some attrs =>
      have distinct : (BindRequest.model.map (·.name)).Nodup := by decide
      obtain ⟨service, hasService⟩ := validate_str "service_id" distinct read
        (by simp [BindRequest.model])
      obtain ⟨plan, hasPlan⟩ := validate_str "plan_id" distinct read
        (by simp [BindRequest.model])
      obtain ⟨parameters, hasParameters⟩ := validate_dict "parameters" distinct read
        (by simp [BindRequest.model])
      simp [BindRequest.parse, read, hasService, hasPlan, hasParameters]

/-- The models keep the document's promises for a body exactly when every member of it is one that
the model takes. -/
theorem documented_bodies_accepted_iff (body : Value) :
    (ProvisionRequest.model.Promised Openapi.provisionRequest body ↔
      (Openapi.Valid Openapi.provisionRequest body → body.Members ProvisionRequest.Takes)) ∧
    (UpdateRequest.model.Promised Openapi.updateRequest body ↔
      (Openapi.Valid Openapi.updateRequest body → body.Members UpdateRequest.Takes)) ∧
    (BindRequest.model.Promised Openapi.bindRequest body ↔
      (Openapi.Valid Openapi.bindRequest body → body.Members BindRequest.Takes)) :=
  ⟨provisionRequest_promised_iff, updateRequest_promised_iff, bindRequest_promised_iff⟩

def volumeBind : Value :=
  .dict [("service_id", .str "s"), ("plan_id", .str "p"),
    ("bind_resource", .dict [("volume", .str "v")])]

theorem documented_bodies_not_always_accepted :
    Openapi.Valid Openapi.bindRequest volumeBind ∧
      ¬BindRequest.model.Promised Openapi.bindRequest volumeBind := by
  have valid : Openapi.Valid Openapi.bindRequest volumeBind := by
    refine ⟨_, rfl, ⟨by decide, ?_⟩⟩
    simp [Openapi.bindRequest, valid_string, valid_object, List.lookup_cons, Value.IsDict]
  refine ⟨valid, fun promised => ?_⟩
  obtain ⟨attrs, read, -⟩ := promised valid
  cases read

end Regnant.Osb
