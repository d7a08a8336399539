import Regnant.Osb.Contents
import Regnant.Osb.Schemas

namespace Regnant.Sdk
open Osb Schema

structure ProvisionRequest where
  serviceId : String
  planId : String
  context : List (String × Value) := []
  parameters : List (String × Value) := []

structure BindRequest where
  serviceId : String
  planId : String
  parameters : List (String × Value) := []
  bindResource : Option (List (String × Value)) := none

def ProvisionRequest.modelDump (request : ProvisionRequest) : Value :=
  .dict [("service_id", .str request.serviceId), ("plan_id", .str request.planId),
    ("context", .dict request.context), ("parameters", .dict request.parameters)]

def BindRequest.modelDump (request : BindRequest) : Value :=
  .dict [("service_id", .str request.serviceId), ("plan_id", .str request.planId),
    ("parameters", .dict request.parameters),
    ("bind_resource", (request.bindResource.map Value.dict).getD .none)]

/-- The client pastes ids into the path and encodes services and plans. -/
inductive Call where
  | provision (instanceId : Segment) (request : ProvisionRequest)
  | deprovision (instanceId : Segment) (serviceId planId : String)
  | lastOperation (instanceId : Segment)
  | bind (instanceId bindingId : Segment) (request : BindRequest)
  | unbind (instanceId bindingId : Segment) (serviceId planId : String)

def Call.body : Call → Option Value
  | .provision _ request => some request.modelDump
  | .bind _ _ request => some request.modelDump
  | _ => none

def Call.received (json : Value → Option Value) : Call → Option Request
  | .provision id request =>
      ((json request.modelDump).bind Osb.ProvisionRequest.parse).map (.provision id · true)
  | .deprovision id service plan => some (.deprovision id service plan true)
  | .lastOperation id => some (.instanceLastOperation id)
  | .bind id bid request =>
      ((json request.modelDump).bind Osb.BindRequest.parse).map (.bind id bid ·)
  | .unbind id bid service plan => some (.unbind id bid service plan)

/-! ## Responses -/

inductive Annotation where
  | leaf (type : Leaf)
  | literal (values : List String)
  | model (fields : List (Field Leaf Value))

def Annotation.check : Annotation → Value → Option Attr
  | .leaf type, v => (type.check v).map .value
  | .literal values, .str s => if s ∈ values then some (.value (.str s)) else none
  | .model fields, .dict items => (readFields Leaf.check items fields).map .model
  | _, _ => none

abbrev Model := List (Field Annotation Attr)

def Model.validate (model : Model) : Value → Option (List (String × Attr))
  | .dict items => readFields Annotation.check items model
  | _ => none

def optionalField (name : String) : Field Annotation Attr :=
  ⟨name, .leaf .optionalStr, some (.value .none)⟩

structure ProvisionResponse where
  dashboardUrl : Option String
  operation : Option String
  deriving DecidableEq

def ProvisionResponse.model : Model :=
  [optionalField "dashboard_url", optionalField "operation"]

def ProvisionResponse.modelValidate (content : Value) : Option ProvisionResponse := do
  let attrs ← ProvisionResponse.model.validate content
  some ⟨← attrOptionalString attrs "dashboard_url", ← attrOptionalString attrs "operation"⟩

structure LastOperation where
  state : String
  description : Option String
  deriving DecidableEq

def LastOperation.model : Model :=
  [⟨"state", .literal ["in progress", "succeeded", "failed"], none⟩, optionalField "description"]

def LastOperation.modelValidate (content : Value) : Option LastOperation := do
  let attrs ← LastOperation.model.validate content
  some ⟨← attrString attrs "state", ← attrOptionalString attrs "description"⟩

structure BindResponse where
  credentials : BindCredentials
  operation : Option String
  deriving DecidableEq

def BindCredentials.model : List (Field Leaf Value) :=
  [⟨"uri", .str, none⟩, ⟨"username", .str, none⟩, ⟨"password", .str, none⟩,
    ⟨"ca_certificate_pem", .optionalStr, some .none⟩]

def BindResponse.model : Model :=
  [⟨"credentials", .model BindCredentials.model, none⟩, optionalField "operation"]

def attrModel (attrs : List (String × Attr)) (name : String) : Option (List (String × Attr)) :=
  match attrs.lookup name with
  | some (.model members) => some (members.map fun m => (m.1, .value m.2))
  | _ => none

def BindResponse.modelValidate (content : Value) : Option BindResponse := do
  let attrs ← BindResponse.model.validate content
  let credentials ← attrModel attrs "credentials"
  some {
    credentials := {
      uri := ← attrString credentials "uri"
      username := ← attrString credentials "username"
      password := ← attrString credentials "password"
      caCertificatePem := ← attrOptionalString credentials "ca_certificate_pem" }
    operation := ← attrOptionalString attrs "operation" }

/-! ## Results -/

inductive Result where
  | provision (response : ProvisionResponse)
  | lastOperation (operation : LastOperation)
  | bind (response : BindResponse)
  | none
  deriving DecidableEq

inductive Failure where
  | httpStatusError (status : Nat)
  | validationError
  deriving DecidableEq

def validated {α : Type} (result : α → Result) : Option α → Except Failure Result
  | some a => .ok (result a)
  | Option.none => .error .validationError

/-- What the client returns or raises for the response to its call, which the server has received as
the request. -/
def Call.result (call : Call) (request : Request) (response : Response) : Except Failure Result :=
  if ¬response.accepted then .error (.httpStatusError response.status)
  else
    match call with
    | .provision _ _ =>
        validated .provision ((response.body.content request).bind ProvisionResponse.modelValidate)
    | .lastOperation _ =>
        validated .lastOperation ((response.body.content request).bind LastOperation.modelValidate)
    | .bind _ _ _ =>
        validated .bind ((response.body.content request).bind BindResponse.modelValidate)
    | .deprovision _ _ _ => .ok .none
    | .unbind _ _ _ _ => .ok .none

end Regnant.Sdk
