import Regnant.AuthSidecar.Check

/-!
# Tokens that are let through

`decode` compares the issuer of a token only when the token has one, and a missing `iss`
deserializes to its default. Every other requirement on a token is checked, so the sidecar lets
through tokens of the realm only, exactly when it is not handed a token that passes the other checks
and has no issuer.
-/

namespace Regnant.AuthSidecar

variable {DecodingKey : Type} {jwt : Jsonwebtoken DecodingKey} {svc : AuthService}
  {jwks : Except FetchError (KeyMap DecodingKey)} {now : Nat} {request : CheckRequest}
  {token name : String} {members : Members} {claims : Claims} {alg : Algorithm}

def CheckRequest.bearerToken (request : CheckRequest) : Option String :=
  request.attributes.bind fun attrs =>
    attrs.request.bind fun requestAttrs =>
      requestAttrs.http.bind fun http => (authorization http.headers).bind bearer

structure Checked (jwt : Jsonwebtoken DecodingKey)
    (jwks : Except FetchError (KeyMap DecodingKey)) (now : Nat) (token : String)
    (members : Members) (claims : Claims) : Prop where
  signed : ∃ header kid keys key, jwt.decodeHeader token = some header ∧ header.kid = some kid ∧
    jwks = .ok keys ∧ keys.lookup kid = some key ∧ jwt.family key = .rsa ∧
      header.alg.family = .rsa ∧ jwt.verifies token key header.alg = true
  carries : jwt.claims token = some members
  fresh : ∃ exp : Nat, members.lookup "exp" = some (.int exp) ∧ (now : Int) - 30 ≤ exp
  reads : Claims.deserialize members = some claims

structure OfRealm (jwt : Jsonwebtoken DecodingKey)
    (jwks : Except FetchError (KeyMap DecodingKey)) (now : Nat) (issuer token : String)
    (members : Members) (claims : Claims) : Prop where
  checked : Checked jwt jwks now token members claims
  issued : members.lookup "iss" = some (.str issuer)

/-- An OK response is given for tokens of the realm only, with the headers of the token's claims. -/
def AdmitsRealm (jwt : Jsonwebtoken DecodingKey) (svc : AuthService)
    (jwks : Except FetchError (KeyMap DecodingKey)) (now : Nat) (issuer : String)
    (request : CheckRequest) : Prop :=
  ∀ response headers, svc.check jwt jwks now request = .ok response →
    response.httpResponse = .okResponse headers →
    ∃ token members claims, request.bearerToken = some token ∧
      OfRealm jwt jwks now issuer token members claims ∧
      headers = [("x-regnant-roles", ",".intercalate claims.realmAccess.roles),
        ("x-regnant-subject", claims.sub), ("x-regnant-user", claims.preferredUsername)]

theorem lookup_eq_filter :
    members.lookup name = ((members.filter (·.1 = name)).head?).map (·.2) := by
  induction members with
  | nil => rfl
  | cons member members ih =>
      obtain ⟨key, value⟩ := member
      by_cases this : key = name
      · simp [this]
      · have other : (name == key) = false := beq_false_of_ne (Ne.symm this)
        rw [List.lookup_cons, other, List.filter_cons_of_neg (by simpa using this), ← ih]

theorem field_some {α : Type} {read : Json → Option α} {default x : α}
    (found : field members name read default = some x) :
    members.lookup name = none ∨
      ∃ value, members.lookup name = some value ∧ read value = some x := by
  rw [lookup_eq_filter]
  simp only [field] at found
  split at found
  · rename_i given
    exact .inl (by rw [given]; rfl)
  · rename_i key value given
    exact .inr ⟨value, by rw [given]; rfl, found⟩
  · cases found

theorem deserialize_some (reads : Claims.deserialize members = some claims) :
    field members "iss" Json.string "" = some claims.iss ∧
      field members "exp" Json.i64 0 = some claims.exp := by
  simp only [Claims.deserialize, Option.bind_eq_bind, Option.bind_eq_some_iff] at reads
  obtain ⟨sub, -, iss, issuer, aud, -, exp, expiry, roles, -, user, -, same⟩ := reads
  obtain rfl := Option.some.inj same
  exact ⟨issuer, expiry⟩

theorem iss_string (reads : Claims.deserialize members = some claims) :
    members.lookup "iss" = none ∨ ∃ iss, members.lookup "iss" = some (.str iss) := by
  rcases field_some (deserialize_some reads).1 with absent | ⟨value, given, read⟩
  · exact .inl absent
  · cases value with
    | str iss => exact .inr ⟨iss, given⟩
    | _ => cases read

theorem exp_int {value : Json} (reads : Claims.deserialize members = some claims)
    (given : members.lookup "exp" = some value) : ∃ n : Int, value = .int n := by
  rcases field_some (deserialize_some reads).2 with absent | ⟨value', given', read⟩
  · rw [given] at absent
    cases absent
  · obtain rfl := Option.some.inj (given.symm.trans given')
    cases value with
    | int n => exact ⟨n, rfl⟩
    | _ => cases read

/-! ## The checks -/

theorem verify_ok_iff :
    svc.verify jwt jwks now token = .ok claims ↔
      ∃ header kid keys key members, jwt.decodeHeader token = some header ∧
        header.kid = some kid ∧ jwks = .ok keys ∧ keys.lookup kid = some key ∧
        jwt.decode token key (svc.validation header.alg) now = some members ∧
        Claims.deserialize members = some claims := by
  constructor
  · intro verified
    simp only [AuthService.verify] at verified
    split at verified
    · cases verified
    rename_i header decoded
    split at verified
    · cases verified
    rename_i kid named
    split at verified
    · cases verified
    rename_i keys
    split at verified
    · cases verified
    rename_i key found
    split at verified
    · cases verified
    rename_i claims' valid
    obtain rfl := Except.ok.inj verified
    obtain ⟨members, signed, reads⟩ := Option.bind_eq_some_iff.mp valid
    exact ⟨header, kid, keys, key, members, decoded, named, rfl, found, signed, reads⟩
  · intro ⟨header, kid, keys, key, members, decoded, named, fetched, found, signed, reads⟩
    simp [AuthService.verify, decoded, named, fetched, found, signed, reads]

theorem check_ok_iff {headers : List (String × String)} :
    (∃ response, svc.check jwt jwks now request = .ok response ∧
        response.httpResponse = .okResponse headers) ↔
      ∃ token claims, request.bearerToken = some token ∧
        svc.verify jwt jwks now token = .ok claims ∧
        (allow claims).httpResponse = .okResponse headers := by
  obtain ⟨attributes⟩ := request
  cases attributes with
  | none => simp [AuthService.check, CheckRequest.bearerToken]
  | some attrs =>
    obtain ⟨requestAttrs⟩ := attrs
    cases requestAttrs with
    | none => simp [AuthService.check, CheckRequest.bearerToken]
    | some requestAttrs =>
      obtain ⟨http⟩ := requestAttrs
      cases http with
      | none => simp [AuthService.check, CheckRequest.bearerToken]
      | some http =>
        cases header : authorization http.headers with
        | none =>
            simp [AuthService.check, CheckRequest.bearerToken, header, pure, Except.pure, deny]
        | some auth =>
          cases stripped : bearer auth with
          | none =>
              simp [AuthService.check, CheckRequest.bearerToken, header, stripped, pure,
                Except.pure, deny]
          | some token =>
            cases verified : svc.verify jwt jwks now token with
            | error error =>
                simp [AuthService.check, CheckRequest.bearerToken, header, stripped, verified, pure,
                  Except.pure, deny]
            | ok claims =>
                simp [AuthService.check, CheckRequest.bearerToken, header, stripped, verified, pure,
                  Except.pure]

/-! ## Which tokens pass -/

section
variable {fetched : Except FetchError Jwks} {keys : KeyMap DecodingKey}

theorem decoded_rsa (documented : jwt.Documented) {response : Jwks} {kid : String}
    {key : DecodingKey} (found : (response.decoded jwt.fromRsaComponents).lookup kid = some key) :
    jwt.family key = .rsa := by
  obtain ⟨entry, -, -, decoded⟩ := decoded_serves found
  simp only [JwksKey.decoded] at decoded
  split at decoded
  · exact documented.rsaKeys _ _ _ decoded
  · cases decoded

theorem checked_of_verify (documented : jwt.Documented)
    (verified : svc.verify jwt (fetched.map (·.decoded jwt.fromRsaComponents)) now token =
      .ok claims) :
    ∃ members, Checked jwt (fetched.map (·.decoded jwt.fromRsaComponents)) now token members
        claims ∧
      (members.lookup "iss" = none ∨ members.lookup "iss" = some (.str svc.issuer)) := by
  obtain ⟨header, kid, keys, key, members, decoded, named, loaded, found, signed, reads⟩ :=
    verify_ok_iff.mp verified
  have rsa : jwt.family key = .rsa := by
    cases fetched with
    | error error => cases loaded
    | ok response =>
        obtain rfl := Except.ok.inj loaded
        exact decoded_rsa documented found
  refine ⟨members, ⟨?_, documented.decodesClaims _ _ _ _ _ signed, ?_, reads⟩, ?_⟩
  · obtain ⟨header', decoded', -, family, verifies⟩ :=
      (documented.signature _ _ _ _ _ signed).header
    obtain rfl := Option.some.inj (decoded.symm.trans decoded')
    exact ⟨header, kid, keys, key, decoded, named, loaded, found, rsa, family.symm.trans rsa,
      verifies⟩
  · obtain ⟨value, given, recent⟩ := documented.expiry _ _ _ _ _ signed
      (by simp [AuthService.validation, Validation.new]) rfl
    obtain ⟨n, rfl⟩ := exp_int reads given
    obtain ⟨nonneg, le⟩ := recent n rfl
    obtain ⟨exp, rfl⟩ := Int.eq_ofNat_of_zero_le nonneg
    exact ⟨exp, given, le⟩
  · rcases iss_string reads with absent | ⟨iss, given⟩
    · exact .inl absent
    · have allowed := documented.issuer _ _ _ _ _ signed [svc.issuer] iss rfl given
      rw [List.mem_singleton.mp allowed] at given
      exact .inr given

theorem verify_of_checked (svc : AuthService) (documented : jwt.Documented)
    (checked : Checked jwt jwks now token members claims)
    (absent : members.lookup "iss" = none) : svc.verify jwt jwks now token = .ok claims := by
  obtain ⟨header, kid, keys, key, decoded, named, loaded, found, rsa, family, verifies⟩ :=
    checked.signed
  obtain ⟨exp, given, recent⟩ := checked.fresh
  have kept : header.alg ≠ .HS256 := by
    intro this
    rw [this] at family
    cases family
  have signed : jwt.Signed token key (svc.validation header.alg).algorithms :=
    ⟨header, decoded, by simp [AuthService.validation, Validation.new, kept],
      rsa.trans family.symm, verifies⟩
  exact verify_ok_iff.mpr ⟨header, kid, keys, key, members, decoded, named, loaded, found,
    documented.accepts _ _ _ _ _ exp signed checked.carries rfl rfl given (Int.natCast_nonneg exp)
      recent absent, checked.reads⟩

end

/-- The sidecar lets through tokens of the configured realm only, except for a token that passes
every other check and has no issuer. -/
theorem realm_admitted_iff (documented : jwt.Documented) (realmUrl : String)
    (fetched : Except FetchError Jwks) (now : Nat) (request : CheckRequest) :
    AdmitsRealm jwt (.new realmUrl) (fetched.map (·.decoded jwt.fromRsaComponents)) now
        (trimEndSlashes realmUrl) request ↔
      ¬∃ token members claims, request.bearerToken = some token ∧
        Checked jwt (fetched.map (·.decoded jwt.fromRsaComponents)) now token members claims ∧
        members.lookup "iss" = none := by
  constructor
  · intro admits ⟨token, members, claims, bears, checked, absent⟩
    have verified := verify_of_checked (.new realmUrl) documented checked absent
    obtain ⟨response, checkedOk, okHeaders⟩ :=
      check_ok_iff.mpr ⟨token, claims, bears, verified, rfl⟩
    obtain ⟨token', members', claims', bears', ofRealm, -⟩ :=
      admits response _ checkedOk okHeaders
    obtain rfl := Option.some.inj (bears.symm.trans bears')
    obtain rfl := Option.some.inj (checked.carries.symm.trans ofRealm.checked.carries)
    rw [ofRealm.issued] at absent
    cases absent
  · intro issuers response headers checkedOk okHeaders
    obtain ⟨token, claims, bears, verified, allowed⟩ :=
      check_ok_iff.mp ⟨response, checkedOk, okHeaders⟩
    obtain ⟨members, checked, absent | issued⟩ := checked_of_verify documented verified
    · exact absurd ⟨token, members, claims, bears, checked, absent⟩ issuers
    · exact ⟨token, members, claims, bears, ⟨checked, issued⟩,
        (HttpResponse.okResponse.inj allowed).symm⟩

def Validation.accepts (v : Validation) (now : Nat) (members : Members) : Bool :=
  v.requiredSpecClaims.all (fun name => (members.lookup name).isSome) &&
  (match members.lookup "exp" with
    | some (.int n) => !v.validateExp || decide (0 ≤ n ∧ (now : Int) - v.leeway ≤ n)
    | _ => true) &&
  (match v.iss, members.lookup "iss" with
    | some allowed, some (.str iss) => decide (iss ∈ allowed)
    | _, _ => true)

def oneKeyJwt (header : Header) (claims : Members) : Jsonwebtoken Unit where
  fromRsaComponents := fun _ _ => some ()
  family := fun _ => .rsa
  decodeHeader := fun _ => some header
  claims := fun _ => some claims
  verifies := fun _ _ alg => decide (alg = header.alg)
  decode := fun _ _ v now =>
    if header.alg ∈ v.algorithms ∧ header.alg.family = .rsa ∧ v.accepts now claims = true then
      some claims
    else none

theorem oneKeyJwt_decode {header : Header} {carried : Members} {key : Unit} {v : Validation} :
    (oneKeyJwt header carried).decode token key v now = some members ↔
      (header.alg ∈ v.algorithms ∧ header.alg.family = .rsa ∧ v.accepts now carried = true) ∧
        carried = members := by
  simp [oneKeyJwt]

theorem oneKeyJwt_documented (header : Header) (carried : Members) :
    (oneKeyJwt header carried).Documented where
  rsaKeys := by
    intro n e key _
    rfl
  decodesClaims := by
    intro token key v now members decoded
    exact congrArg some (oneKeyJwt_decode.mp decoded).2
  signature := by
    intro token key v now members decoded
    obtain ⟨allowed, rsa, -⟩ := (oneKeyJwt_decode.mp decoded).1
    exact ⟨header, rfl, allowed, rsa.symm, by simp [oneKeyJwt]⟩
  expiry := by
    intro token key v now members decoded required validated
    obtain ⟨⟨-, -, accepted⟩, rfl⟩ := oneKeyJwt_decode.mp decoded
    simp only [Validation.accepts, Bool.and_eq_true, List.all_eq_true] at accepted
    obtain ⟨value, given⟩ := Option.isSome_iff_exists.mp (accepted.1.1 "exp" required)
    refine ⟨value, given, ?_⟩
    rintro n rfl
    have recent := accepted.1.2
    rw [given] at recent
    simpa [validated] using recent
  issuer := by
    intro token key v now members decoded allowed iss configured given
    obtain ⟨⟨-, -, accepted⟩, rfl⟩ := oneKeyJwt_decode.mp decoded
    simp only [Validation.accepts, Bool.and_eq_true] at accepted
    have compared := accepted.2
    rw [configured, given] at compared
    exact of_decide_eq_true compared
  accepts := by
    intro token key v now members n signed carries required _ given nonneg recent absent
    obtain rfl : carried = members := Option.some.inj carries
    obtain ⟨header', same, allowed, family, -⟩ := signed.header
    obtain rfl : header = header' := Option.some.inj same
    refine oneKeyJwt_decode.mpr ⟨⟨allowed, family.symm, ?_⟩, rfl⟩
    simp [Validation.accepts, required, given, absent, nonneg, recent]

def bearerRequest (auth : String) : CheckRequest :=
  ⟨some ⟨some ⟨some ⟨(∅ : Finmap fun _ : String => String).insert "authorization" auth⟩⟩⟩⟩

def anonymousJwt : Jsonwebtoken Unit :=
  oneKeyJwt ⟨.RS256, some "k"⟩ [("exp", .int 100)]

def realmKeys : Jwks :=
  ⟨[⟨"RSA", "k", some "RS256", some "sig", some "n", some "e", none, none, none⟩]⟩

theorem anonymous_token_checked :
    Checked anonymousJwt (.ok (realmKeys.decoded anonymousJwt.fromRsaComponents)) 0 "t"
      [("exp", .int 100)] ⟨"", "", .null, 100, ⟨[]⟩, ""⟩ where
  signed := ⟨⟨.RS256, some "k"⟩, "k", _, (), rfl, rfl, rfl, rfl, rfl, rfl, rfl⟩
  carries := rfl
  fresh := ⟨100, rfl, by decide⟩
  reads := rfl

theorem realm_not_always_admitted :
    ¬AdmitsRealm anonymousJwt (.new "http://keycloak:8080/realms/regnant/")
      (.ok (realmKeys.decoded anonymousJwt.fromRsaComponents)) 0
      (trimEndSlashes "http://keycloak:8080/realms/regnant/") (bearerRequest "Bearer t") := by
  intro admits
  have verified := verify_of_checked (.new "http://keycloak:8080/realms/regnant/")
    (oneKeyJwt_documented _ _) anonymous_token_checked rfl
  have bears : (bearerRequest "Bearer t").bearerToken = some "t" := by decide
  obtain ⟨response, checkedOk, okHeaders⟩ := check_ok_iff.mpr ⟨_, _, bears, verified, rfl⟩
  obtain ⟨token, members, claims, -, ofRealm, -⟩ := admits response _ checkedOk okHeaders
  obtain rfl := Option.some.inj ofRealm.checked.carries
  cases ofRealm.issued

theorem foreign_token_not_admitted :
    AdmitsRealm (oneKeyJwt ⟨.RS256, some "k"⟩ [("exp", .int 100), ("iss", .str "other")])
      (.new "r") (.ok (realmKeys.decoded fun _ _ => some ())) 0 (trimEndSlashes "r")
      (bearerRequest "Bearer t") := by
  refine (realm_admitted_iff (oneKeyJwt_documented _ _) "r" (.ok realmKeys) 0
    (bearerRequest "Bearer t")).mpr ?_
  intro ⟨token, members, claims, _, checked, absent⟩
  obtain rfl := Option.some.inj checked.carries
  cases absent

end Regnant.AuthSidecar
