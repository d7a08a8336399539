import Regnant.Proof.Sidecar.Admission
import Regnant.Proof.Sidecar.Revocation

namespace Regnant.AuthSidecar
open Machine

variable {DecodingKey : Type} {jwt : Jsonwebtoken DecodingKey} {svc : AuthService}
  {jwks : Except FetchError (KeyMap DecodingKey)} {now delay began : Nat} {request : CheckRequest}
  {issuer token kid : String} {key : DecodingKey} {members : Members} {claims : Claims}
  {endpoint : Nat → Jwks} {labels : List SidecarStep}

/-- `decode` accepts a token of an issuer that is allowed like one that names no issuer. -/
def Jsonwebtoken.AcceptsIssuer (jwt : Jsonwebtoken DecodingKey) : Prop :=
  ∀ token key v (now : Nat) members (n : Int) iss allowed, jwt.Signed token key v.algorithms →
    jwt.claims token = some members → v.requiredSpecClaims = ["exp"] → v.validateAud = false →
    members.lookup "exp" = some (.int n) → 0 ≤ n → (now : Int) - v.leeway ≤ n →
    v.iss = some allowed → members.lookup "iss" = some (.str iss) → iss ∈ allowed →
    jwt.decode token key v now = some members

/-- A token that the realm of `issuer` has signed with a key. -/
structure Issued (jwt : Jsonwebtoken DecodingKey) (issuer token kid : String) (key : DecodingKey)
    (members : Members) (claims : Claims) : Prop where
  signed : ∃ header, jwt.decodeHeader token = some header ∧ header.kid = some kid ∧
    header.alg.family = .rsa ∧ jwt.verifies token key header.alg = true
  carries : jwt.claims token = some members
  reads : Claims.deserialize members = some claims
  issuer : members.lookup "iss" = some (.str issuer)

def Unexpired (now : Nat) (members : Members) : Prop :=
  ∃ exp : Nat, members.lookup "exp" = some (.int exp) ∧ (now : Int) - 30 ≤ exp

theorem verify_of_issued (documented : jwt.AcceptsIssuer) {keys : KeyMap DecodingKey}
    (issued : Issued jwt svc.issuer token kid key members claims) (rsa : jwt.family key = .rsa)
    (unexpired : Unexpired now members) (found : keys.lookup kid = some key) :
    svc.verify jwt (.ok keys) now token = .ok claims := by
  obtain ⟨header, decoded, named, family, verifies⟩ := issued.signed
  obtain ⟨exp, given, recent⟩ := unexpired
  have kept : header.alg ≠ .HS256 := by
    intro this
    rw [this] at family
    cases family
  have signed : jwt.Signed token key (svc.validation header.alg).algorithms :=
    ⟨header, decoded, by simp [AuthService.validation, Validation.new, kept],
      rsa.trans family.symm, verifies⟩
  exact verify_ok_iff.mpr ⟨header, kid, keys, key, members, decoded, named, rfl, found,
    documented _ _ _ _ _ exp svc.issuer [svc.issuer] signed issued.carries rfl rfl given
      (Int.natCast_nonneg exp) recent rfl issued.issuer (List.mem_singleton_self _), issued.reads⟩

theorem verify_unknown {keys : KeyMap DecodingKey}
    (issued : Issued jwt issuer token kid key members claims) (unknown : keys.lookup kid = none) :
    svc.verify jwt (.ok keys) now token = .error ("unknown kid " ++ kid) := by
  obtain ⟨header, decoded, named, -⟩ := issued.signed
  simp [AuthService.verify, decoded, named, unknown]

theorem check_bearer (bears : request.bearerToken = some token) :
    svc.check jwt jwks now request = .ok (match svc.verify jwt jwks now token with
      | .ok claims => allow claims
      | .error error => deny ("token rejected: " ++ error)) := by
  simp only [CheckRequest.bearerToken, Option.bind_eq_some_iff] at bears
  obtain ⟨attrs, given, requestAttrs, given', http, given'', auth, header, stripped⟩ := bears
  simp only [AuthService.check, given, given', given'', header, stripped]
  cases svc.verify jwt jwks now token <;> rfl

theorem returned_within
    (prompt : Along (Sidecar.step jwt.fromRsaComponents svc endpoint) (Sidecar.Prompt delay)
      (.start began) labels) {call time : Nat} {keys : KeyMap DecodingKey}
    (returned : (exec (Sidecar.step jwt.fromRsaComponents svc endpoint) (.start began) labels).calls
      call = some (.returned time (.ok keys))) :
    ∃ produced, produced ≤ time ∧ time ≤ produced + (svc.cacheTtl + delay) ∧
      keys = (endpoint produced).decoded jwt.fromRsaComponents := by
  have sourced : (exec (Sidecar.step jwt.fromRsaComponents svc endpoint) (.start began)
      labels).Sourced jwt.fromRsaComponents svc endpoint delay fun _ => True :=
    Sidecar.sourced_exec (prompt.mono _ fun _ _ soon => ⟨soon, fun _ _ _ => trivial⟩)
  obtain ⟨produced, before, -, after, same⟩ := sourced.calls call _ returned
  exact ⟨produced, before, after, same⟩

/-- From when a key has been published for as long as a key set is used until it is withdrawn, all
unexpired tokens that it has signed are let through with the headers of their claims; and none is
from when it has been withdrawn for so long. -/
theorem key_lifetime (documented : jwt.Documented) (accepts : jwt.AcceptsIssuer)
    (published withdrawn : Nat)
    (publishes : ∀ time, published ≤ time → time < withdrawn →
      ((endpoint time).decoded jwt.fromRsaComponents).lookup kid = some key)
    (withdraws : ∀ time, time < published ∨ withdrawn ≤ time →
      ((endpoint time).decoded jwt.fromRsaComponents).lookup kid = none)
    (prompt : Along (Sidecar.step jwt.fromRsaComponents svc endpoint) (Sidecar.Prompt delay)
      (.start began) labels)
    (call time : Nat) (keys : KeyMap DecodingKey)
    (returned : (exec (Sidecar.step jwt.fromRsaComponents svc endpoint) (.start began) labels).calls
      call = some (.returned time (.ok keys)))
    (bears : request.bearerToken = some token)
    (issued : Issued jwt svc.issuer token kid key members claims) :
    (published + (svc.cacheTtl + delay) ≤ time → time < withdrawn → Unexpired now members →
      svc.check jwt (.ok keys) now request = .ok (allow claims)) ∧
    (time < published ∨ withdrawn + (svc.cacheTtl + delay) ≤ time →
      svc.check jwt (.ok keys) now request =
        .ok (deny ("token rejected: unknown kid " ++ kid))) := by
  obtain ⟨produced, before, after, rfl⟩ := returned_within prompt returned
  rw [check_bearer bears]
  constructor
  · intro late early unexpired
    have found := publishes produced (by omega) (by omega)
    rw [verify_of_issued accepts issued (decoded_rsa documented found) unexpired found]
  · intro outside
    have unknown := withdraws produced (by omega)
    have reason : "token rejected: " ++ ("unknown kid " ++ kid) =
        "token rejected: unknown kid " ++ kid := by
      rw [← String.append_assoc]
      rfl
    rw [verify_unknown issued unknown]
    exact congrArg (fun reason => Except.ok (deny reason)) reason

def issuedJwt : Jsonwebtoken Unit :=
  oneKeyJwt ⟨.RS256, some "k"⟩ [("exp", .int 100), ("iss", .str "r")]

theorem issuedJwt_accepts : issuedJwt.AcceptsIssuer := by
  intro token key v now members n iss allowed signed carries required _ given nonneg recent
    configured issuer member
  obtain rfl := Option.some.inj carries
  obtain ⟨header, same, algorithm, family, -⟩ := signed.header
  obtain rfl := Option.some.inj same
  refine oneKeyJwt_decode.mpr ⟨⟨algorithm, family.symm, ?_⟩, rfl⟩
  simp [Validation.accepts, required, given, issuer, nonneg, recent, configured, member]

def withdrawingEndpoint (time : Nat) : Jwks :=
  if time < 50 then realmKeys else ⟨[]⟩

def oneCall (elapsed : Nat) : List SidecarStep :=
  [.tick elapsed, .call 0, .read 0, .answer 0, .parse 0, .stamp 0, .write 0, .finish 0]

theorem oneCall_prompt (elapsed : Nat) :
    Along (Sidecar.step issuedJwt.fromRsaComponents ⟨"certs", "r", 10⟩ withdrawingEndpoint)
      (Sidecar.Prompt 0) (.start 0) (oneCall elapsed) := by
  refine ⟨trivial, trivial, trivial, trivial, trivial, trivial, ?_, ?_, trivial⟩
  · intro cache produced found
    cases found
    exact le_rfl
  · intro keys produced found
    cases found
    exact le_rfl

theorem key_lived :
    let svc : AuthService := ⟨"certs", "r", 10⟩
    svc.check issuedJwt (.ok (realmKeys.decoded issuedJwt.fromRsaComponents)) 0
      (bearerRequest "Bearer t") = .ok (allow ⟨"", "r", .null, 100, ⟨[]⟩, ""⟩) ∧
    svc.check issuedJwt (.ok ∅) 0 (bearerRequest "Bearer t") =
      .ok (deny "token rejected: unknown kid k") := by
  have issued : Issued issuedJwt "r" "t" "k" () [("exp", .int 100), ("iss", .str "r")]
      ⟨"", "r", .null, 100, ⟨[]⟩, ""⟩ :=
    ⟨⟨⟨.RS256, some "k"⟩, rfl, rfl, rfl, rfl⟩, rfl, rfl, rfl⟩
  have bears : (bearerRequest "Bearer t").bearerToken = some "t" := by decide
  have publishes : ∀ time, 0 ≤ time → time < 50 →
      ((withdrawingEndpoint time).decoded issuedJwt.fromRsaComponents).lookup "k" = some () := by
    intro time _ early
    rw [withdrawingEndpoint, if_pos early]
    rfl
  have withdraws : ∀ time, time < 0 ∨ 50 ≤ time →
      ((withdrawingEndpoint time).decoded issuedJwt.fromRsaComponents).lookup "k" = none := by
    intro time late
    rw [withdrawingEndpoint, if_neg (by omega)]
    rfl
  constructor
  · exact (key_lifetime (oneKeyJwt_documented _ _) issuedJwt_accepts 0 50 publishes withdraws
      (oneCall_prompt 20) 0 20 _ rfl bears issued).1 (by decide) (by decide) ⟨100, rfl, by decide⟩
  · exact (key_lifetime (oneKeyJwt_documented _ _) issuedJwt_accepts 0 50 publishes withdraws
      (oneCall_prompt 60) 0 60 _ rfl bears issued).2 (.inr (by decide))

end Regnant.AuthSidecar
