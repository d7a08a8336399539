import Mathlib.Data.Rat.Defs
import Regnant.AuthSidecar.Jwks

namespace Regnant.AuthSidecar

/-- What `serde_json` reads; an object keeps its members in order, with any repetitions. -/
inductive Json where
  | null
  | bool (b : Bool)
  | int (n : Int)
  | float (q : ℚ)
  | str (s : String)
  | arr (items : List Json)
  | obj (members : List (String × Json))

abbrev Members := List (String × Json)

namespace Json

def string : Json → Option String
  | .str s => some s
  | _ => none

def i64 : Json → Option Int
  | .int n => if -2 ^ 63 ≤ n ∧ n < 2 ^ 63 then some n else none
  | _ => none

def strings : Json → Option (List String)
  | .arr items => items.mapM string
  | _ => none

end Json

def field {α : Type} (members : Members) (name : String) (read : Json → Option α)
    (default : α) : Option α :=
  match members.filter (·.1 = name) with
  | [] => some default
  | [(_, value)] => read value
  | _ => none

structure RealmAccess where
  roles : List String
  deriving DecidableEq

/-- A derived `Deserialize` also reads an array, field by field. -/
def RealmAccess.deserialize : Json → Option RealmAccess
  | .obj members => (field members "roles" Json.strings []).map RealmAccess.mk
  | .arr [] => some ⟨[]⟩
  | .arr [roles] => roles.strings.map RealmAccess.mk
  | _ => none

structure Claims where
  sub : String
  iss : String
  aud : Json
  exp : Int
  realmAccess : RealmAccess
  preferredUsername : String

def Claims.deserialize (members : Members) : Option Claims := do
  let sub ← field members "sub" Json.string ""
  let iss ← field members "iss" Json.string ""
  let aud ← field members "aud" some .null
  let exp ← field members "exp" Json.i64 0
  let realmAccess ← field members "realm_access" RealmAccess.deserialize ⟨[]⟩
  let preferredUsername ← field members "preferred_username" Json.string ""
  pure ⟨sub, iss, aud, exp, realmAccess, preferredUsername⟩

inductive Algorithm where
  | HS256 | HS384 | HS512
  | ES256 | ES384
  | RS256 | RS384 | RS512
  | PS256 | PS384 | PS512
  | EdDSA
  deriving DecidableEq

inductive AlgorithmFamily where
  | hmac
  | rsa
  | ec
  | ed
  deriving DecidableEq

def Algorithm.family : Algorithm → AlgorithmFamily
  | .HS256 | .HS384 | .HS512 => .hmac
  | .ES256 | .ES384 => .ec
  | .RS256 | .RS384 | .RS512 | .PS256 | .PS384 | .PS512 => .rsa
  | .EdDSA => .ed

structure Header where
  alg : Algorithm
  kid : Option String

structure Validation where
  requiredSpecClaims : List String
  leeway : Nat
  validateExp : Bool
  validateAud : Bool
  iss : Option (List String)
  algorithms : List Algorithm

def Validation.new (alg : Algorithm) : Validation where
  requiredSpecClaims := ["exp"]
  leeway := 60
  validateExp := true
  validateAud := true
  iss := none
  algorithms := [alg]

/-- The functions of `jsonwebtoken` that the sidecar calls. `decode` gives the members of the
token's claims part; `claims` is that part of a token, `verifies` the check of its signature. -/
structure Jsonwebtoken (DecodingKey : Type) where
  fromRsaComponents : String → String → Option DecodingKey
  family : DecodingKey → AlgorithmFamily
  decodeHeader : String → Option Header
  claims : String → Option Members
  verifies : String → DecodingKey → Algorithm → Bool
  decode : String → DecodingKey → Validation → Nat → Option Members

namespace Jsonwebtoken
variable {DecodingKey : Type} (jwt : Jsonwebtoken DecodingKey)

structure Signed (token : String) (key : DecodingKey) (algorithms : List Algorithm) : Prop where
  header : ∃ header, jwt.decodeHeader token = some header ∧ header.alg ∈ algorithms ∧
    jwt.family key = header.alg.family ∧ jwt.verifies token key header.alg = true

/-- What the documentation of `jsonwebtoken` says of `decode` and of keys. -/
structure Documented : Prop where
  rsaKeys : ∀ n e key, jwt.fromRsaComponents n e = some key → jwt.family key = .rsa
  decodesClaims : ∀ token key v now members, jwt.decode token key v now = some members →
    jwt.claims token = some members
  signature : ∀ token key v now members, jwt.decode token key v now = some members →
    jwt.Signed token key v.algorithms
  expiry : ∀ token key v now members, jwt.decode token key v now = some members →
    "exp" ∈ v.requiredSpecClaims → v.validateExp = true →
    ∃ value, members.lookup "exp" = some value ∧
      ∀ n : Int, value = .int n → 0 ≤ n ∧ (now : Int) - v.leeway ≤ n
  issuer : ∀ token key v now members, jwt.decode token key v now = some members →
    ∀ allowed iss, v.iss = some allowed → members.lookup "iss" = some (.str iss) → iss ∈ allowed
  -- an issuer is compared only when there is one
  accepts : ∀ token key v (now : Nat) members (n : Int), jwt.Signed token key v.algorithms →
    jwt.claims token = some members → v.requiredSpecClaims = ["exp"] → v.validateAud = false →
    members.lookup "exp" = some (.int n) → 0 ≤ n → (now : Int) - v.leeway ≤ n →
    members.lookup "iss" = none → jwt.decode token key v now = some members

end Jsonwebtoken

structure HttpRequest where
  headers : Finmap fun _ : String => String

structure AttributeRequest where
  http : Option HttpRequest

structure AttributeContext where
  request : Option AttributeRequest

structure CheckRequest where
  attributes : Option AttributeContext

structure Status where
  code : Nat
  message : String
  deriving DecidableEq

def Status.invalidArgument (message : String) : Status :=
  ⟨3, message⟩

inductive HttpResponse where
  | okResponse (headers : List (String × String))
  | deniedResponse (status : Nat) (body : String)
  deriving DecidableEq

structure CheckResponse where
  status : Status
  httpResponse : HttpResponse
  deriving DecidableEq

def allow (claims : Claims) : CheckResponse :=
  let roles := ",".intercalate claims.realmAccess.roles
  { status := ⟨0, ""⟩
    httpResponse := .okResponse
      [("x-regnant-roles", roles), ("x-regnant-subject", claims.sub),
        ("x-regnant-user", claims.preferredUsername)] }

def deny (reason : String) : CheckResponse where
  status := ⟨7, reason⟩
  httpResponse := .deniedResponse 401 reason

def AuthService.validation (svc : AuthService) (alg : Algorithm) : Validation :=
  { Validation.new (if alg = .HS256 then .RS256 else alg) with
    iss := some [svc.issuer]
    validateAud := false
    leeway := 30 }

section
variable {DecodingKey : Type} (jwt : Jsonwebtoken DecodingKey) (svc : AuthService)
  (jwks : Except FetchError (KeyMap DecodingKey)) (now : Nat)

/-- `jwks` is what the call of `jwks` gives. The error is the text that `anyhow` shows. -/
def AuthService.verify (token : String) : Except String Claims :=
  match jwt.decodeHeader token with
  | none => .error "decode header"
  | some header =>
      match header.kid with
      | none => .error "missing kid"
      | some kid =>
          match jwks with
          | .error error => .error error.context
          | .ok keys =>
              match keys.lookup kid with
              | none => .error ("unknown kid " ++ kid)
              | some key =>
                  match (jwt.decode token key (svc.validation header.alg) now).bind
                    Claims.deserialize with
                  | none => .error "verify jwt"
                  | some claims => .ok claims

def stripPrefix (text value : String) : Option String :=
  (value.toList.dropPrefix? text.toList).map String.ofList

def authorization (headers : Finmap fun _ : String => String) : Option String :=
  (headers.lookup "authorization").orElse fun _ => headers.lookup "Authorization"

def bearer (auth : String) : Option String :=
  (stripPrefix "Bearer " auth).orElse fun _ => stripPrefix "bearer " auth

def AuthService.check (request : CheckRequest) : Except Status CheckResponse := do
  let some attrs := request.attributes | .error (.invalidArgument "missing attributes")
  let some requestAttrs := attrs.request | .error (.invalidArgument "no request")
  let some http := requestAttrs.http | .error (.invalidArgument "no http")
  let some auth := authorization http.headers | return deny "missing Authorization header"
  let some token := bearer auth | return deny "Authorization is not a Bearer token"
  match svc.verify jwt jwks now token with
  | .ok claims => return allow claims
  | .error error => return deny ("token rejected: " ++ error)

end

end Regnant.AuthSidecar
