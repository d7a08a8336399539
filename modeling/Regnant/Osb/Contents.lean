import Regnant.Osb.Routes

namespace Regnant.Osb

def Value.ofOption : Option String → Value
  | some s => .str s
  | Option.none => .none

def OperationState.text : OperationState → String
  | .inProgress => "in progress"
  | .succeeded => "succeeded"
  | .failed => "failed"

def BindCredentials.json (credentials : BindCredentials) : Value :=
  .dict [("uri", .str credentials.uri), ("username", .str credentials.username),
    ("password", .str credentials.password),
    ("ca_certificate_pem", .ofOption credentials.caCertificatePem)]

def operationJson (dashboard : Bool) (operation : String) : Value :=
  .dict ((if dashboard then [("dashboard_url", .none)] else []) ++
    [("operation", .str operation)])

/-- The content of an answer to the request. Contents with parameters, whose members have no order
here, and those that the framework writes are left out. -/
def Body.content (request : Request) : Body → Option Value
  | .operation text =>
      match request with
      | .provision _ _ _ => some (operationJson true text)
      | .update _ _ _ => some (operationJson true text)
      | _ => some (operationJson false text)
  | .lastOperation state description =>
      some (.dict [("state", .str state.text), ("description", .ofOption description),
        ("instance_usable", .none), ("update_repeatable", .none)])
  | .bind credentials =>
      some (.dict [("credentials", credentials.json), ("operation", .none)])
  | .error code description =>
      some (.dict [("error", .str code), ("description", .str description)])
  | _ => none

end Regnant.Osb
