import Regnant.AuthSidecar.Check

namespace Regnant.AuthSidecar

def requiredField {α : Type} (members : Members) (name : String) (read : Json → Option α) :
    Option α :=
  match members.filter (·.1 = name) with
  | [(_, value)] => read value
  | _ => none

def Json.optionalString : Json → Option (Option String)
  | .null => some none
  | .str s => some (some s)
  | _ => none

def JwksKey.deserialize : Json → Option JwksKey
  | .obj members => do
      let kty ← requiredField members "kty" Json.string
      let kid ← requiredField members "kid" Json.string
      let alg ← field members "alg" Json.optionalString none
      let use ← field members "use" Json.optionalString none
      let n ← field members "n" Json.optionalString none
      let e ← field members "e" Json.optionalString none
      let x ← field members "x" Json.optionalString none
      let y ← field members "y" Json.optionalString none
      let crv ← field members "crv" Json.optionalString none
      return ⟨kty, kid, alg, use, n, e, x, y, crv⟩
  | .arr [kty, kid, alg, use, n, e, x, y, crv] => do
      return ⟨← kty.string, ← kid.string, ← alg.optionalString, ← use.optionalString,
        ← n.optionalString, ← e.optionalString, ← x.optionalString, ← y.optionalString,
        ← crv.optionalString⟩
  | _ => none

def Jwks.keysOf : Json → Option (List JwksKey)
  | .arr items => items.mapM JwksKey.deserialize
  | _ => none

def Jwks.deserialize : Json → Option Jwks
  | .obj members => (requiredField members "keys" keysOf).map Jwks.mk
  | .arr [keys] => (keysOf keys).map Jwks.mk
  | _ => none

/-- A call of `jwks` without others, which reads the clock at `asked` and at `stamped`. The response
is the document that it is sent, or why there is none. -/
def AuthService.jwks {DecodingKey : Type}
    (fromRsaComponents : String → String → Option DecodingKey) (svc : AuthService)
    (cache : Option (JwksCache DecodingKey)) (asked stamped : Nat)
    (response : Except FetchError Json) :
    Except FetchError (KeyMap DecodingKey) × Option (JwksCache DecodingKey) :=
  match cache.filter (asked < ·.expiresAt) with
  | some cache => (.ok cache.keys, some cache)
  | none =>
      match response with
      | .error error => (.error error, cache)
      | .ok document =>
          match Jwks.deserialize document with
          | none => (.error .parse, cache)
          | some response =>
              let decoded := response.decoded fromRsaComponents
              (.ok decoded, some ⟨decoded, stamped + svc.cacheTtl⟩)

end Regnant.AuthSidecar
