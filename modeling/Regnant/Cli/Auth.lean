import Regnant.AuthSidecar.KeySet
import Regnant.Lib.CallTree

namespace Regnant.Cli
open AuthSidecar (Json field requiredField trimEndSlashes)

structure DeviceCode where
  deviceCode : String
  userCode : String
  verificationUriComplete : Option String
  verificationUri : String
  interval : Nat
  expiresIn : Nat

def u64 : Json → Option Nat
  | .int n => if 0 ≤ n ∧ n < 2 ^ 64 then some n.toNat else none
  | _ => none

def DeviceCode.deserialize : Json → Option DeviceCode
  | .obj members => do
      let deviceCode ← requiredField members "device_code" Json.string
      let userCode ← requiredField members "user_code" Json.string
      let complete ← field members "verification_uri_complete" Json.optionalString none
      let verificationUri ← requiredField members "verification_uri" Json.string
      let interval ← requiredField members "interval" u64
      let expiresIn ← requiredField members "expires_in" u64
      return ⟨deviceCode, userCode, complete, verificationUri, interval, expiresIn⟩
  | .arr [deviceCode, userCode, complete, verificationUri, interval, expiresIn] => do
      return ⟨← deviceCode.string, ← userCode.string, ← complete.optionalString,
        ← verificationUri.string, ← u64 interval, ← u64 expiresIn⟩
  | _ => none

structure TokenResponse where
  accessToken : String
  refreshToken : String
  error : Option String

def TokenResponse.deserialize : Json → Option TokenResponse
  | .obj members => do
      let accessToken ← requiredField members "access_token" Json.string
      let refreshToken ← requiredField members "refresh_token" Json.string
      let error ← field members "error" Json.optionalString none
      return ⟨accessToken, refreshToken, error⟩
  | .arr [accessToken, refreshToken] => do
      return ⟨← accessToken.string, ← refreshToken.string, none⟩
  | .arr [accessToken, refreshToken, error] => do
      return ⟨← accessToken.string, ← refreshToken.string, ← error.optionalString⟩
  | _ => none

inductive ReqwestError where
  | send
  | status (code : Nat)
  | decode

structure Response where
  status : Nat
  body : Option Json

namespace Response

def isSuccess (response : Response) : Bool :=
  decide (200 ≤ response.status ∧ response.status < 300)

def errorForStatus (response : Response) : Except ReqwestError Response :=
  if 400 ≤ response.status ∧ response.status < 600 then .error (.status response.status)
  else .ok response

def json {α : Type} (response : Response) (deserialize : Json → Option α) :
    Except ReqwestError α :=
  match response.body.bind deserialize with
  | some a => .ok a
  | none => .error .decode

end Response

structure Decoders (Bytes : Type) where
  urlSafeNoPad : String → Option Bytes
  fromSlice : Bytes → Option Json

def get (name : String) : Json → Option Json
  | .obj members => members.reverse.lookup name
  | _ => none

def decodeSubject {Bytes : Type} (decoders : Decoders Bytes) (token : String) : String :=
  match (token.toList.splitOn '.').map String.ofList with
  | _ :: part :: _ =>
      match (decoders.urlSafeNoPad part).bind decoders.fromSlice with
      | none => "unknown"
      | some json =>
          let username := (get "preferred_username" json).bind Json.string
          (username.orElse fun _ => (get "sub" json).bind Json.string).getD "unknown"
  | _ => "unknown"

/-! ## The login -/

structure Token where
  accessToken : String
  refreshToken : String
  username : String

inductive Error where
  | reqwest (error : ReqwestError)
  | message (text : String)
  | context (text : String) (source : Error)

inductive Call where
  | post (url : String) (form : List (String × String))
  | println (line : String)
  | now
  | sleep (seconds : Nat)

abbrev Call.Result : Call → Type
  | .post _ _ => Response
  | .println _ => Unit
  | .now => Nat
  | .sleep _ => Unit

abbrev Command := CallTree Call Call.Result Error

namespace Command
variable {α : Type}

abbrev invoke (c : Call) : Command c.Result :=
  CallTree.invoke c

def ofReqwest (x : Except ReqwestError α) : Command α :=
  CallTree.ofExcept (x.mapError .reqwest)

def context (text : String) (command : Command α) : Command α := do
  match ← command.attempt with
  | .ok a => return a
  | .error e => CallTree.raise (.context text e)

end Command

open Command

section
variable {Bytes : Type} (decoders : Decoders Bytes)

/-- The loop of the login, if it ends within so many rounds. -/
def pollToken (device : DeviceCode) (tokenUrl clientId : String) (started timeout : Nat) :
    Nat → Command (Option Token)
  | 0 => return none
  | rounds + 1 => do
      if (← invoke .now) - started > timeout then
        CallTree.raise (.message "device-code flow expired")
      else
        invoke (.sleep device.interval)
        let response ← invoke (.post tokenUrl [
          ("grant_type", "urn:ietf:params:oauth:grant-type:device_code"),
          ("device_code", device.deviceCode),
          ("client_id", clientId)])
        if response.isSuccess then
          let body ← ofReqwest (response.json TokenResponse.deserialize)
          return some ⟨body.accessToken, body.refreshToken, decodeSubject decoders body.accessToken⟩
        else
          match response.json TokenResponse.deserialize with
          -- an error without tokens is no token response
          | .error _ => pollToken device tokenUrl clientId started timeout rounds
          | .ok body =>
              match body.error with
              | none => pollToken device tokenUrl clientId started timeout rounds
              | some error =>
                  if error = "authorization_pending" then
                    pollToken device tokenUrl clientId started timeout rounds
                  else if error = "slow_down" then do
                    invoke (.sleep 2)
                    pollToken device tokenUrl clientId started timeout rounds
                  else CallTree.raise (.message ("token endpoint error: " ++ error))

def deviceCodeLogin (rounds : Nat) (realm clientId : String) : Command (Option Token) := do
  let realm := trimEndSlashes realm
  let response ← context "request device code" (invoke
    (.post (realm ++ "/protocol/openid-connect/auth/device")
      [("client_id", clientId), ("scope", "openid profile email")]))
  let response ← ofReqwest response.errorForStatus
  let device ← context "device-code body" (ofReqwest (response.json DeviceCode.deserialize))
  let displayUri := device.verificationUriComplete.getD device.verificationUri
  invoke (.println ("Open this URL to authenticate: " ++ displayUri))
  invoke (.println
    ("(or enter user code " ++ device.userCode ++ " at " ++ device.verificationUri ++ ")"))
  let tokenUrl := realm ++ "/protocol/openid-connect/token"
  let started ← invoke .now
  pollToken decoders device tokenUrl clientId started (device.expiresIn * 10 ^ 9) rounds

end

end Regnant.Cli
