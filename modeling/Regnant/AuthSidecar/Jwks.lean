import Mathlib.Data.Finmap
import Mathlib.Data.List.DropRight
import Regnant.Lib.Machine

namespace Regnant.AuthSidecar

structure JwksKey where
  kty : String
  kid : String
  alg : Option String
  use : Option String
  n : Option String
  e : Option String
  x : Option String
  y : Option String
  crv : Option String

structure Jwks where
  keys : List JwksKey

abbrev KeyMap (DecodingKey : Type) := Finmap fun _ : String => DecodingKey

section
variable {DecodingKey : Type} (fromRsaComponents : String → String → Option DecodingKey)

def JwksKey.decoded (key : JwksKey) : Option DecodingKey :=
  match key.n, key.e with
  | some n, some e => fromRsaComponents n e
  | _, _ => none

/-- The loop over the keys of a response; a later key replaces an earlier one of the same id. -/
def Jwks.decoded (response : Jwks) : KeyMap DecodingKey :=
  response.keys.foldl (fun decoded key =>
    match key.decoded fromRsaComponents with
    | some dk => decoded.insert key.kid dk
    | none => decoded) ∅

def Jwks.Serves (response : Jwks) (kid : String) (dk : DecodingKey) : Prop :=
  ∃ key ∈ response.keys, key.kid = kid ∧ key.decoded fromRsaComponents = some dk

variable {fromRsaComponents}

theorem decoded_serves {response : Jwks} {kid : String} {dk : DecodingKey}
    (found : (response.decoded fromRsaComponents).lookup kid = some dk) :
    response.Serves fromRsaComponents kid dk := by
  obtain ⟨keys⟩ := response
  simp only [Jwks.decoded, Jwks.Serves] at found ⊢
  -- from the last key of the response, whose entry replaces the others
  induction keys using List.reverseRecOn with
  | nil => simp at found
  | append_singleton keys key ih =>
      rw [List.foldl_append, List.foldl_cons, List.foldl_nil] at found
      cases value : key.decoded fromRsaComponents with
      | none =>
          rw [value] at found
          obtain ⟨key', member, same⟩ := ih found
          exact ⟨key', List.mem_append_left _ member, same⟩
      | some dk' =>
          rw [value] at found
          by_cases this : kid = key.kid
          · rw [this, Finmap.lookup_insert, Option.some.injEq] at found
            exact ⟨key, by simp, this.symm, by rw [value, found]⟩
          · rw [Finmap.lookup_insert_of_ne _ this] at found
            obtain ⟨key', member, same⟩ := ih found
            exact ⟨key', List.mem_append_left _ member, same⟩

end

structure AuthService where
  realmUrl : String
  issuer : String
  cacheTtl : Nat  -- in nanoseconds, like all instants

def trimEndSlashes (s : String) : String :=
  String.ofList (s.toList.rdropWhile (· == '/'))

def AuthService.new (realmUrl : String) : AuthService :=
  let issuer := trimEndSlashes realmUrl
  { realmUrl := issuer ++ "/protocol/openid-connect/certs"
    issuer := issuer
    cacheTtl := 300 * 10 ^ 9 }

inductive FetchError where
  | send
  | status
  | parse
  deriving DecidableEq

def FetchError.context : FetchError → String
  | .send => "fetch JWKS"
  | .status => "JWKS status"
  | .parse => "parse JWKS"

structure JwksCache (DecodingKey : Type) where
  keys : KeyMap DecodingKey
  expiresAt : Nat

/-! ## Concurrent calls of `AuthService::jwks`

Another call can run between any two steps of a call: the cache read (which returns the keys of an
entry that is not expired), the endpoint's response, the parsed response, the stamped entry, the
cache write and the return. -/

inductive JwksCall (DecodingKey : Type) where
  | reading
  | fetching
  | answered (response : Jwks) (produced : Nat)
  | decoded (keys : KeyMap DecodingKey) (produced : Nat)
  | stamped (cache : JwksCache DecodingKey) (produced : Nat)
  | written (keys : KeyMap DecodingKey) (produced : Nat)
  | returned (time : Nat) (result : Except FetchError (KeyMap DecodingKey))

structure Sidecar (DecodingKey : Type) where
  now : Nat
  cache : Option (JwksCache DecodingKey)
  calls : Nat → Option (JwksCall DecodingKey)

inductive SidecarStep where
  | tick (elapsed : Nat)
  | call (i : Nat)
  | read (i : Nat)
  | answer (i : Nat)
  | fail (i : Nat) (error : FetchError)
  | parse (i : Nat)
  | stamp (i : Nat)
  | write (i : Nat)
  | finish (i : Nat)

namespace Sidecar
variable {DecodingKey : Type}

def start (now : Nat) : Sidecar DecodingKey where
  now := now
  cache := none
  calls := fun _ => none

def setCall (s : Sidecar DecodingKey) (i : Nat) (call : JwksCall DecodingKey) :
    Sidecar DecodingKey :=
  { s with calls := Function.update s.calls i (some call) }

/-- `endpoint` is the key set that the JWKS endpoint serves at each time. -/
def step (fromRsaComponents : String → String → Option DecodingKey) (svc : AuthService)
    (endpoint : Nat → Jwks) (s : Sidecar DecodingKey) : SidecarStep → Sidecar DecodingKey
  | .tick elapsed => { s with now := s.now + elapsed }
  | .call i =>
      match s.calls i with
      | none => s.setCall i .reading
      | some _ => s
  | .read i =>
      match s.calls i, s.cache with
      | some .reading, some cache =>
          if s.now < cache.expiresAt then s.setCall i (.returned s.now (.ok cache.keys))
          else s.setCall i .fetching
      | some .reading, none => s.setCall i .fetching
      | _, _ => s
  | .answer i =>
      match s.calls i with
      | some .fetching => s.setCall i (.answered (endpoint s.now) s.now)
      | _ => s
  | .fail i error =>
      -- no response, an error status or a body that is not a key set
      match s.calls i with
      | some .fetching => s.setCall i (.returned s.now (.error error))
      | some (.answered _ _) => s.setCall i (.returned s.now (.error error))
      | _ => s
  | .parse i =>
      match s.calls i with
      | some (.answered response produced) =>
          s.setCall i (.decoded (response.decoded fromRsaComponents) produced)
      | _ => s
  | .stamp i =>
      match s.calls i with
      | some (.decoded keys produced) =>
          -- the clock is read once more, after the response was parsed
          s.setCall i (.stamped ⟨keys, s.now + svc.cacheTtl⟩ produced)
      | _ => s
  | .write i =>
      match s.calls i with
      | some (.stamped cache produced) =>
          { s with cache := some cache }.setCall i (.written cache.keys produced)
      | _ => s
  | .finish i =>
      match s.calls i with
      | some (.written keys _) => s.setCall i (.returned s.now (.ok keys))
      | _ => s

end Sidecar

end Regnant.AuthSidecar
