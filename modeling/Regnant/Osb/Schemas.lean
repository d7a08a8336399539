import Regnant.Lib.Schema
import Regnant.Osb.Routes

namespace Regnant.Osb
open Schema

instance : JsonValue Value where
  isString := fun
    | .str _ => true
    | _ => false
  members := fun
    | .dict items => some items
    | _ => none

/-! ## The pydantic models -/

inductive Leaf where
  | str
  | optionalStr
  | dict
  | optionalDict
  deriving DecidableEq

def Leaf.check : Leaf → Value → Option Value
  | .str, .str s => some (.str s)
  | .optionalStr, .str s => some (.str s)
  | .optionalStr, .none => some .none
  | .dict, .dict items => some (.dict items)
  | .optionalDict, .dict items => some (.dict items)
  | .optionalDict, .none => some .none
  | _, _ => none

inductive FieldType where
  | leaf (type : Leaf)
  | optionalModel (fields : List (Field Leaf Value))

inductive Attr where
  | value (v : Value)
  | model (attrs : List (String × Value))

def FieldType.check : FieldType → Value → Option Attr
  | .leaf type, v => (type.check v).map .value
  | .optionalModel _, .none => some (.value .none)
  | .optionalModel fields, .dict items => (readRecord Leaf.check items fields).map .model
  | .optionalModel _, _ => none

abbrev Model := List (Field FieldType Attr)

/-- `_Strict`: a model takes an object and forbids extra members. -/
def Model.validate (model : Model) : Value → Option (List (String × Attr))
  | .dict items => readRecord FieldType.check items model
  | _ => none

def field (name : String) (type : Leaf) (default : Option Value) : Field FieldType Attr :=
  ⟨name, .leaf type, default.map .value⟩

def CatalogPlanMaintenanceInfo.model : List (Field Leaf Value) :=
  [⟨"version", .str, none⟩, ⟨"description", .optionalStr, some .none⟩]

def ProvisionRequest.model : Model :=
  [field "service_id" .str none,
    field "plan_id" .str none,
    field "context" .dict (some (.dict [])),
    field "organization_guid" .optionalStr (some .none),
    field "space_guid" .optionalStr (some .none),
    field "parameters" .dict (some (.dict [])),
    ⟨"maintenance_info", .optionalModel CatalogPlanMaintenanceInfo.model, some (.value .none)⟩]

def UpdateRequest.model : Model :=
  [field "service_id" .str none,
    field "plan_id" .optionalStr (some .none),
    field "parameters" .dict (some (.dict [])),
    field "previous_values" .optionalDict (some .none),
    field "context" .dict (some (.dict [])),
    ⟨"maintenance_info", .optionalModel CatalogPlanMaintenanceInfo.model, some (.value .none)⟩]

def BindResource.model : List (Field Leaf Value) :=
  [⟨"app_guid", .optionalStr, some .none⟩, ⟨"route", .optionalStr, some .none⟩]

def BindRequest.model : Model :=
  [field "service_id" .str none,
    field "plan_id" .str none,
    field "context" .dict (some (.dict [])),
    ⟨"bind_resource", .optionalModel BindResource.model, some (.value .none)⟩,
    field "parameters" .dict (some (.dict []))]

/-! The routes read the attributes of the validated models. -/

def Value.toDict : Value → Option Dict
  | .dict items => some (items.map fun m => (⟨m.1, m.2⟩ : Σ _ : String, Value)).toFinmap
  | _ => Option.none

def attrString (attrs : List (String × Attr)) (name : String) : Option String :=
  match attrs.lookup name with
  | some (.value (.str s)) => some s
  | _ => none

def attrOptionalString (attrs : List (String × Attr)) (name : String) : Option (Option String) :=
  match attrs.lookup name with
  | some (.value .none) => some none
  | some (.value (.str s)) => some (some s)
  | _ => none

def attrDict (attrs : List (String × Attr)) (name : String) : Option Dict :=
  match attrs.lookup name with
  | some (.value v) => v.toDict
  | _ => none

def ProvisionRequest.parse (body : Value) : Option ProvisionRequest := do
  let attrs ← ProvisionRequest.model.validate body
  let serviceId ← attrString attrs "service_id"
  let planId ← attrString attrs "plan_id"
  let context ← attrDict attrs "context"
  let parameters ← attrDict attrs "parameters"
  some { serviceId, planId, context, parameters }

def UpdateRequest.parse (body : Value) : Option UpdateRequest := do
  let attrs ← UpdateRequest.model.validate body
  let serviceId ← attrString attrs "service_id"
  let planId ← attrOptionalString attrs "plan_id"
  let parameters ← attrDict attrs "parameters"
  some { serviceId, planId, parameters }

def BindRequest.parse (body : Value) : Option BindRequest := do
  let attrs ← BindRequest.model.validate body
  let serviceId ← attrString attrs "service_id"
  let planId ← attrString attrs "plan_id"
  let parameters ← attrDict attrs "parameters"
  some { serviceId, planId, parameters }

namespace Openapi

def provisionRequest : ObjectSchema where
  required := ["service_id", "plan_id"]
  properties := [("service_id", .string), ("plan_id", .string), ("context", .object),
    ("parameters", .object)]

def updateRequest : ObjectSchema where
  required := ["service_id"]
  properties := [("service_id", .string), ("plan_id", .string), ("parameters", .object),
    ("previous_values", .object)]

def bindRequest : ObjectSchema where
  required := ["service_id", "plan_id"]
  properties := [("service_id", .string), ("plan_id", .string), ("parameters", .object),
    ("bind_resource", .object)]

end Openapi

/-! ## Paths -/

def isUnreserved (c : Char) : Bool :=
  c.isAlphanum || c ∈ ['-', '.', '_', '~']

/-- What clients may paste into a path or a query, where it stands for itself. -/
def UrlSafe (s : String) : Prop :=
  s ∉ ["", ".", ".."] ∧ s.toList.Forall (isUnreserved · = true)

instance (s : String) : Decidable (UrlSafe s) :=
  inferInstanceAs (Decidable (_ ∧ _))

abbrev Segment := { s : String // UrlSafe s }

end Regnant.Osb
