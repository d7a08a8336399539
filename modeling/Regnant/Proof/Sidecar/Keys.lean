import Regnant.AuthSidecar.KeySet
import Regnant.Lib.Traverse

namespace Regnant.AuthSidecar

variable {DecodingKey : Type} {fromRsaComponents : String → String → Option DecodingKey}
  {members members' : Members} {name kid n e : String} {keys : List Members} {key : JwksKey}
  {dk : DecodingKey}

theorem lookup_eq_head (members : Members) (name : String) :
    members.lookup name = (members.filter (·.1 = name)).head?.map (·.2) := by
  induction members with
  | nil => rfl
  | cons member members ih =>
      obtain ⟨name', value⟩ := member
      rw [List.lookup_cons, List.filter_cons]
      by_cases same : name' = name
      · simp [same]
      · simp [same, beq_false_of_ne (Ne.symm same), ih]

def text (members : Members) (name : String) : Option String :=
  (members.lookup name).bind Json.string

def HasText (members : Members) (name : String) : Prop :=
  ∃ s, members.filter (·.1 = name) = [(name, .str s)]

def MayHaveText (members : Members) (name : String) : Prop :=
  members.filter (·.1 = name) ∈ [[], [(name, .null)]] ∨ HasText members name

theorem filter_cases (members : Members) (name : String) :
    members.filter (·.1 = name) = [] ∨
      (∃ value, members.filter (·.1 = name) = [(name, value)]) ∨
      ∃ first second rest, members.filter (·.1 = name) = first :: second :: rest := by
  cases found : members.filter (·.1 = name) with
  | nil => exact .inl rfl
  | cons first rest =>
      cases rest with
      | nil =>
          have here : first ∈ members.filter (·.1 = name) := by simp [found]
          obtain ⟨name', value⟩ := first
          obtain rfl : name' = name := by simpa using (List.mem_filter.mp here).2
          exact .inr (.inl ⟨value, rfl⟩)
      | cons second rest => exact .inr (.inr ⟨first, second, rest, rfl⟩)

theorem requiredField_string {s : String} :
    requiredField members name Json.string = some s ↔
      members.filter (·.1 = name) = [(name, .str s)] := by
  rw [requiredField]
  rcases filter_cases members name with found | ⟨value, found⟩ | ⟨first, second, rest, found⟩
  · simp [found]
  · rw [found]
    cases value <;> simp [Json.string]
  · simp [found]

theorem field_optionalString {s : Option String} :
    field members name Json.optionalString none = some s ↔
      MayHaveText members name ∧ text members name = s := by
  rw [field, MayHaveText, HasText, text, lookup_eq_head]
  rcases filter_cases members name with found | ⟨value, found⟩ | ⟨first, second, rest, found⟩
  · simp [found]
  · rw [found]
    cases value <;> simp [Json.optionalString, Json.string]
  · simp [found]

theorem text_of_filter {s : String} (found : members.filter (·.1 = name) = [(name, .str s)]) :
    text members name = some s := by
  rw [text, lookup_eq_head, found]
  rfl

def optionalFields : List String :=
  ["alg", "use", "n", "e", "x", "y", "crv"]

structure Readable (members : Members) : Prop where
  kty : HasText members "kty"
  kid : HasText members "kid"
  optional : ∀ name ∈ optionalFields, MayHaveText members name

theorem deserialize_key :
    JwksKey.deserialize (.obj members) = some key ↔ Readable members ∧
      text members "kty" = some key.kty ∧ text members "kid" = some key.kid ∧
      text members "alg" = key.alg ∧ text members "use" = key.use ∧ text members "n" = key.n ∧
      text members "e" = key.e ∧ text members "x" = key.x ∧ text members "y" = key.y ∧
      text members "crv" = key.crv := by
  obtain ⟨kty, kid, alg, use, n, e, x, y, crv⟩ := key
  simp only [JwksKey.deserialize, Option.bind_eq_bind, Option.bind_eq_some_iff,
    requiredField_string, field_optionalString, Option.pure_def, Option.some.injEq,
    JwksKey.mk.injEq]
  constructor
  · rintro ⟨_, kty, _, kid, _, alg, _, use, _, n, _, e, _, x, _, y, _, crv, rfl, rfl, rfl, rfl, rfl,
      rfl, rfl, rfl, rfl⟩
    refine ⟨⟨⟨_, kty⟩, ⟨_, kid⟩, ?_⟩, text_of_filter kty, text_of_filter kid, alg.2, use.2, n.2,
      e.2, x.2, y.2, crv.2⟩
    simp only [optionalFields, List.forall_mem_cons]
    exact ⟨alg.1, use.1, n.1, e.1, x.1, y.1, crv.1, by simp⟩
  · rintro ⟨⟨⟨_, one⟩, ⟨_, one'⟩, optional⟩, kty, kid, alg, use, n, e, x, y, crv⟩
    obtain rfl := Option.some.inj ((text_of_filter one).symm.trans kty)
    obtain rfl := Option.some.inj ((text_of_filter one').symm.trans kid)
    simp only [optionalFields, List.forall_mem_cons] at optional
    obtain ⟨alg', use', n', e', x', y', crv', -⟩ := optional
    exact ⟨_, one, _, one', _, ⟨alg', alg⟩, _, ⟨use', use⟩, _, ⟨n', n⟩, _, ⟨e', e⟩, _, ⟨x', x⟩, _,
      ⟨y', y⟩, _, ⟨crv', crv⟩, rfl, rfl, rfl, rfl, rfl, rfl, rfl, rfl, rfl⟩

theorem deserialize_isSome :
    (JwksKey.deserialize (.obj members)).isSome = true ↔ Readable members := by
  rw [Option.isSome_iff_exists]
  simp only [deserialize_key]
  constructor
  · rintro ⟨key, readable, -⟩
    exact readable
  · intro readable
    obtain ⟨kty, one⟩ := readable.kty
    obtain ⟨kid, one'⟩ := readable.kid
    exact ⟨⟨kty, kid, _, _, _, _, _, _, _⟩, readable, text_of_filter one, text_of_filter one',
      rfl, rfl, rfl, rfl, rfl, rfl, rfl⟩

def Decodes (fromRsaComponents : String → String → Option DecodingKey) (members : Members)
    (dk : DecodingKey) : Prop :=
  ∃ n e, text members "n" = some n ∧ text members "e" = some e ∧ fromRsaComponents n e = some dk

theorem decoded_iff (deserialized : JwksKey.deserialize (.obj members) = some key) :
    key.decoded fromRsaComponents = some dk ↔ Decodes fromRsaComponents members dk := by
  obtain ⟨-, -, -, -, -, n, e, -⟩ := deserialize_key.mp deserialized
  rw [Decodes, n, e, JwksKey.decoded]
  cases key.n with
  | none => simp
  | some n => cases key.e <;> simp

theorem lookup_decoded_iff {response : Jwks} (distinct : (response.keys.map (·.kid)).Nodup) :
    (response.decoded fromRsaComponents).lookup kid = some dk ↔
      response.Serves fromRsaComponents kid dk := by
  refine ⟨decoded_serves, ?_⟩
  obtain ⟨keys⟩ := response
  simp only [Jwks.decoded, Jwks.Serves]
  rintro ⟨key, member, rfl, value⟩
  -- from the last key, which has another id than those before it
  induction keys using List.reverseRecOn with
  | nil => cases member
  | append_singleton keys last ih =>
      simp only [List.map_append, List.map_cons, List.map_nil, List.nodup_append,
        List.mem_singleton, List.mem_map, forall_exists_index, and_imp] at distinct
      rw [List.foldl_append, List.foldl_cons, List.foldl_nil]
      rcases List.mem_append.mp member with earlier | this
      · have here := ih distinct.1 earlier
        have other : key.kid ≠ last.kid := distinct.2.2 _ key earlier rfl _ rfl
        cases last.decoded fromRsaComponents with
        | none => exact here
        | some dk' => exact (Finmap.lookup_insert_of_ne _ other).trans here
      · obtain rfl := List.mem_singleton.mp this
        rw [value]
        exact Finmap.lookup_insert _

def IsKeySet (document : Json) (keys : List Members) : Prop :=
  ∃ members, document = .obj members ∧
    members.filter (·.1 = "keys") = [("keys", .arr (keys.map .obj))]

def ForSignatures (members : Members) : Prop :=
  members.lookup "use" ∈ [none, some .null, some (.str "sig")]

structure IsSigningKey (fromRsaComponents : String → String → Option DecodingKey)
    (members : Members) (kid : String) (dk : DecodingKey) : Prop where
  kty : text members "kty" = some "RSA"
  kid : text members "kid" = some kid
  decodes : Decodes fromRsaComponents members dk
  use : ForSignatures members

variable {svc : AuthService} {cache : Option (JwksCache DecodingKey)} {asked stamped : Nat}
  {document : Json}

theorem filter_of_stale (stale : ∀ c ∈ cache, c.expiresAt ≤ asked) :
    cache.filter (asked < ·.expiresAt) = none := by
  rw [Option.filter_eq_none_iff]
  intro c held
  simpa using stale c held

theorem jwks_of_stale (stale : ∀ c ∈ cache, c.expiresAt ≤ asked)
    (isKeySet : IsKeySet document keys) :
    (svc.jwks fromRsaComponents cache asked stamped (.ok document)).1 =
      match keys.mapM (JwksKey.deserialize ∘ .obj) with
      | none => .error .parse
      | some ks => .ok ((Jwks.mk ks).decoded fromRsaComponents) := by
  obtain ⟨members, rfl, found⟩ := isKeySet
  rw [AuthService.jwks, filter_of_stale stale]
  simp only [Jwks.deserialize, requiredField, found, Jwks.keysOf, List.mapM_map]
  cases keys.mapM (JwksKey.deserialize ∘ .obj) <;> rfl

theorem jwks_deserialized {response : Jwks} (stale : ∀ c ∈ cache, c.expiresAt ≤ asked)
    (deserialized : Jwks.deserialize document = some response) :
    svc.jwks fromRsaComponents cache asked stamped (.ok document) =
      (.ok (response.decoded fromRsaComponents),
        some ⟨response.decoded fromRsaComponents, stamped + svc.cacheTtl⟩) := by
  rw [AuthService.jwks, filter_of_stale stale]
  simp only [deserialized]

def callSteps (i : Nat) : List SidecarStep :=
  [.call i, .read i, .answer i, .parse i, .stamp i, .write i, .finish i]

theorem exec_callSteps {endpoint : Nat → Jwks} {s : Sidecar DecodingKey} {i : Nat}
    (idle : s.calls i = none) (stale : ∀ c ∈ s.cache, c.expiresAt ≤ s.now)
    (deserialized : Jwks.deserialize document = some (endpoint s.now)) :
    let after := Machine.exec (Sidecar.step fromRsaComponents svc endpoint) s (callSteps i)
    let returned := svc.jwks fromRsaComponents s.cache s.now s.now (.ok document)
    after.calls i = some (.returned s.now returned.1) ∧ after.cache = returned.2 := by
  intro after returned
  have same : returned = _ := jwks_deserialized stale deserialized
  rw [same]
  simp only [after, Machine.exec, callSteps, List.foldl_cons, List.foldl_nil, Sidecar.step, idle,
    Sidecar.setCall, Function.update_self]
  cases held : s.cache with
  | none => simp
  | some c =>
      have expired : ¬s.now < c.expiresAt := Nat.not_lt.mpr (stale c held)
      simp [expired]

def YieldsSigningKeys (fromRsaComponents : String → String → Option DecodingKey) (svc : AuthService)
    (cache : Option (JwksCache DecodingKey)) (asked stamped : Nat) (document : Json)
    (keys : List Members) : Prop :=
  ∃ map, (svc.jwks fromRsaComponents cache asked stamped (.ok document)).1 = .ok map ∧
    ∀ kid dk, map.lookup kid = some dk ↔
      ∃ members ∈ keys, IsSigningKey fromRsaComponents members kid dk

theorem serves_iff {ks : List JwksKey} (deserialized : keys.mapM (JwksKey.deserialize ∘ .obj) =
      some ks) :
    (Jwks.mk ks).Serves fromRsaComponents kid dk ↔
      ∃ members ∈ keys, text members "kid" = some kid ∧
        Decodes fromRsaComponents members dk := by
  simp only [Jwks.Serves, List.mem_mapM_iff deserialized]
  constructor
  · rintro ⟨key, ⟨members, member, here⟩, rfl, value⟩
    exact ⟨members, member, (deserialize_key.mp here).2.2.1, (decoded_iff here).mp value⟩
  · rintro ⟨members, member, named, decodes⟩
    have readable := List.mapM_some_iff_forall.mp ⟨ks, deserialized⟩ members member
    obtain ⟨key, here⟩ := Option.isSome_iff_exists.mp readable
    have same := (deserialize_key.mp here).2.2.1
    exact ⟨key, ⟨members, member, here⟩, Option.some.inj (same.symm.trans named),
      (decoded_iff here).mpr decodes⟩

/-- The map has exactly the signing keys of a document exactly when every object of the document
deserializes, and every one whose numbers decode is an RSA key for signatures. -/
theorem yields_iff (fromRsaComponents : String → String → Option DecodingKey)
    (svc : AuthService) (cache : Option (JwksCache DecodingKey)) (asked stamped : Nat)
    (document : Json) (keys : List Members) (stale : ∀ c ∈ cache, c.expiresAt ≤ asked)
    (isKeySet : IsKeySet document keys)
    (distinct : (keys.filterMap fun members => text members "kid").Nodup) :
    YieldsSigningKeys fromRsaComponents svc cache asked stamped document keys ↔
      (∀ members ∈ keys, Readable members) ∧
        ∀ members ∈ keys, ∀ dk, Decodes fromRsaComponents members dk →
          text members "kty" = some "RSA" ∧ ForSignatures members := by
  have readable_iff : (∃ ks, keys.mapM (JwksKey.deserialize ∘ .obj) = some ks) ↔
      ∀ members ∈ keys, Readable members := by
    rw [List.mapM_some_iff_forall]
    exact forall₂_congr fun members _ => deserialize_isSome
  rw [← readable_iff, YieldsSigningKeys, jwks_of_stale stale isKeySet]
  cases deserialized : keys.mapM (JwksKey.deserialize ∘ .obj) with
  | none => simp
  | some ks =>
      have kids : ks.map (·.kid) = keys.filterMap fun members => text members "kid" :=
        List.map_mapM deserialized fun members key here => (deserialize_key.mp here).2.2.1
      have lookup_iff (kid : String) (dk : DecodingKey) :
          ((Jwks.mk ks).decoded fromRsaComponents).lookup kid = some dk ↔
            ∃ members ∈ keys, text members "kid" = some kid ∧
              Decodes fromRsaComponents members dk := by
        rw [lookup_decoded_iff (by rwa [kids]), serves_iff deserialized]
      constructor
      · rintro ⟨map, same, exactly⟩
        obtain rfl := Except.ok.inj same
        refine ⟨⟨ks, rfl⟩, fun members member dk decodes => ?_⟩
        have readable := readable_iff.mp ⟨ks, deserialized⟩ members member
        obtain ⟨kid, one⟩ := readable.kid
        have named := text_of_filter one
        have found := (lookup_iff kid dk).mpr ⟨members, member, named, decodes⟩
        obtain ⟨members', member', signing⟩ := (exactly kid dk).mp found
        obtain rfl : members = members' :=
          List.eq_of_nodup_filterMap distinct member member' named signing.kid
        exact ⟨signing.kty, signing.use⟩
      · rintro ⟨-, only⟩
        refine ⟨_, rfl, fun kid dk => (lookup_iff kid dk).trans ?_⟩
        constructor
        · rintro ⟨members, member, named, decodes⟩
          obtain ⟨kty, use⟩ := only members member dk decodes
          exact ⟨members, member, kty, named, decodes, use⟩
        · rintro ⟨members, member, signing⟩
          exact ⟨members, member, signing.kid, signing.decodes⟩

def rsaKey (kid use : String) : Members :=
  [("kty", .str "RSA"), ("kid", .str kid), ("use", .str use), ("n", .str "0Q"), ("e", .str "AQAB")]

def ecKey (kid : String) : Members :=
  [("kty", .str "EC"), ("kid", .str kid), ("crv", .str "P-256"), ("x", .str "AQ"), ("y", .str "Ag"),
    ("x5c", .arr [])]

theorem rsaKey_use (kid use : String) : ForSignatures (rsaKey kid use) ↔ use = "sig" := by
  rw [ForSignatures, show (rsaKey kid use).lookup "use" = some (.str use) from rfl]
  simp

theorem rsa_and_ec_yield :
    YieldsSigningKeys (fun n e => some (n, e)) (.new "https://keycloak/realms/regnant") none 0 0
      (.obj [("keys", .arr [.obj (rsaKey "a" "sig"), .obj (ecKey "b")])])
      [rsaKey "a" "sig", ecKey "b"] := by
  refine (yields_iff _ _ none 0 0 _ [rsaKey "a" "sig", ecKey "b"] (by simp) ⟨_, rfl, rfl⟩
    (by decide)).mpr ⟨?_, ?_⟩
  · simp only [List.forall_mem_cons]
    exact ⟨deserialize_isSome.mp rfl, deserialize_isSome.mp rfl, by simp⟩
  · simp only [List.forall_mem_cons]
    refine ⟨fun dk _ => ⟨rfl, (rsaKey_use _ _).mpr rfl⟩, ?_, by simp⟩
    rintro dk ⟨n, e, missing, -⟩
    cases missing

theorem signing_keys_not_always_yielded :
    ¬∀ (document : Json) (keys : List Members), IsKeySet document keys →
      (keys.filterMap fun members => text members "kid").Nodup →
      YieldsSigningKeys (fun n e => some (n, e)) (.new "https://keycloak/realms/regnant") none 0 0
        document keys := by
  intro always
  obtain ⟨map, returned, exactly⟩ := always (.obj [("keys", .arr [.obj (rsaKey "b" "enc")])])
    [rsaKey "b" "enc"] ⟨_, rfl, rfl⟩ (by decide)
  obtain rfl := Except.ok.inj returned
  obtain ⟨members, member, signing⟩ := (exactly "b" ("0Q", "AQAB")).mp rfl
  obtain rfl := List.mem_singleton.mp member
  exact absurd ((rsaKey_use _ _).mp signing.use) (by decide)

end Regnant.AuthSidecar
