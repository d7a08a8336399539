import Regnant.Proof.Sidecar.Admission

namespace Regnant.AuthSidecar

variable {roles roles' : List String} {value role : String}

def HttpResponse.header (name : String) : HttpResponse → Option String
  | .okResponse headers => headers.lookup name
  | .deniedResponse _ _ => none

def rolesHeader (response : CheckResponse) : Option String :=
  response.httpResponse.header "x-regnant-roles"

def splitAtCommas (value : String) : List String :=
  (value.toList.splitOn ',').map String.ofList

def forwardedRoles (claims : Claims) : Option (List String) :=
  (rolesHeader (allow claims)).map splitAtCommas

structure Separable (roles : List String) : Prop where
  nonempty : roles ≠ []
  whole : ∀ role ∈ roles, ',' ∉ role.toList

def pieces (roles : List String) : List String :=
  if roles = [] then [""] else roles.flatMap splitAtCommas

theorem rolesHeader_allow (claims : Claims) :
    rolesHeader (allow claims) = some (",".intercalate claims.realmAccess.roles) := rfl

theorem splitAtCommas_append (value value' : String) :
    splitAtCommas (value ++ "," ++ value') = splitAtCommas value ++ splitAtCommas value' := by
  have chars : (value ++ "," ++ value').toList = value.toList ++ ',' :: value'.toList := by simp
  rw [splitAtCommas, chars, List.splitOn_append_cons_self, List.map_append]
  rfl

theorem splitAtCommas_join (roles : List String) :
    splitAtCommas (",".intercalate roles) = pieces roles := by
  induction roles with
  | nil => rfl
  | cons role roles ih =>
      cases roles with
      | nil => simp [pieces]
      | cons role' roles =>
          rw [String.intercalate_cons_cons, splitAtCommas_append, ih]
          simp [pieces]

theorem join_splitAtCommas (value : String) : ",".intercalate (splitAtCommas value) = value := by
  apply String.toList_inj.mp
  have chars : (splitAtCommas value).map String.toList = value.toList.splitOn ',' := by
    simp [splitAtCommas]
  rw [String.toList_intercalate, chars]
  exact List.intercalate_splitOn ','

theorem join_eq_iff :
    ",".intercalate roles = ",".intercalate roles' ↔ pieces roles = pieces roles' := by
  constructor
  · intro same
    rw [← splitAtCommas_join, ← splitAtCommas_join, same]
  · intro same
    rw [← join_splitAtCommas (",".intercalate roles), splitAtCommas_join, same,
      ← splitAtCommas_join, join_splitAtCommas]

theorem comma_not_mem_of_mem_splitOn {chars piece : List Char}
    (member : piece ∈ chars.splitOn ',') : ',' ∉ piece := by
  induction chars generalizing piece with
  | nil =>
      rw [List.splitOn_nil, List.mem_singleton] at member
      simp [member]
  | cons c chars ih =>
      rw [List.splitOn_cons_eq_if_modifyHead] at member
      obtain ⟨first, rest, split⟩ := List.exists_cons_of_ne_nil (List.splitOn_ne_nil ',' chars)
      rw [split] at member ih
      split at member
      · rcases List.mem_cons.mp member with rfl | later
        · exact List.not_mem_nil
        · exact ih later
      · rename_i other
        rcases List.mem_cons.mp member with rfl | later
        · intro here
          rcases List.mem_cons.mp here with rfl | inside
          · exact other (beq_self_eq_true ',')
          · exact ih List.mem_cons_self inside
        · exact ih (List.mem_cons_of_mem _ later)

theorem splitAtCommas_of_whole (whole : ',' ∉ role.toList) : splitAtCommas role = [role] := by
  rw [splitAtCommas, List.splitOn_eq_singleton whole, List.map_singleton, String.ofList_toList]

theorem whole_of_mem_splitAtCommas (member : role ∈ splitAtCommas value) : ',' ∉ role.toList := by
  obtain ⟨piece, cut, rfl⟩ := List.mem_map.mp member
  rw [String.toList_ofList]
  exact comma_not_mem_of_mem_splitOn cut

theorem pieces_of_separable (separable : Separable roles) : pieces roles = roles := by
  have cut : roles.flatMap splitAtCommas = roles.flatMap fun role => [role] :=
    List.flatMap_congr fun role member => splitAtCommas_of_whole (separable.whole role member)
  rw [pieces, if_neg separable.nonempty, cut, List.flatMap_singleton']

theorem separable_of_pieces (same : pieces roles = roles) : Separable roles where
  nonempty := by
    rintro rfl
    cases same
  whole := by
    intro role member
    rw [← same, pieces] at member
    split at member
    · rw [List.mem_singleton] at member
      simp [member]
    · obtain ⟨value, -, cut⟩ := List.mem_flatMap.mp member
      exact whole_of_mem_splitAtCommas cut

theorem rolesHeader_eq_iff (claims claims' : Claims) :
    rolesHeader (allow claims) = rolesHeader (allow claims') ↔
      pieces claims.realmAccess.roles = pieces claims'.realmAccess.roles := by
  rw [rolesHeader_allow, rolesHeader_allow, Option.some.injEq]
  exact join_eq_iff

/-- The roles of a token can be read back exactly when there are some and none has a comma, and
different ones of this kind are sent differently. -/
theorem roles_read_back_iff :
    (∀ claims : Claims, forwardedRoles claims = some claims.realmAccess.roles ↔
      Separable claims.realmAccess.roles) ∧
    ∀ claims claims' : Claims, Separable claims.realmAccess.roles →
      Separable claims'.realmAccess.roles →
      rolesHeader (allow claims) = rolesHeader (allow claims') →
      claims.realmAccess.roles = claims'.realmAccess.roles := by
  constructor
  · intro claims
    rw [forwardedRoles, rolesHeader_allow, Option.map_some, splitAtCommas_join, Option.some.injEq]
    exact ⟨separable_of_pieces, pieces_of_separable⟩
  · intro claims claims' separable separable' same
    have cut := (rolesHeader_eq_iff claims claims').mp same
    rwa [pieces_of_separable separable, pieces_of_separable separable'] at cut

def Verified (claims : Claims) : Prop :=
  ∃ (jwt : Jsonwebtoken Unit) (svc : AuthService) (fetched : Except FetchError Jwks) (now : Nat)
    (token : String), jwt.Documented ∧
    svc.verify jwt (fetched.map (·.decoded jwt.fromRsaComponents)) now token = .ok claims

def rolesMembers (roles : List String) : Members :=
  [("exp", .int 100), ("iss", .str "r"), ("realm_access", .obj [("roles", .arr (roles.map .str))])]

theorem verified_roles (roles : List String) : Verified ⟨"", "r", .null, 100, ⟨roles⟩, ""⟩ := by
  have strings : (roles.map Json.str).mapM Json.string = some roles := by
    induction roles with
    | nil => rfl
    | cons role roles ih => simp [Json.string, ih]
  refine ⟨oneKeyJwt ⟨.RS256, some "k"⟩ (rolesMembers roles), .new "r", .ok realmKeys, 0, "t",
    oneKeyJwt_documented _ _, verify_ok_iff.mpr ⟨_, "k", _, (), rolesMembers roles, rfl, rfl, rfl,
      rfl, rfl, ?_⟩⟩
  simp [Claims.deserialize, rolesMembers, field, Json.string, Json.i64, RealmAccess.deserialize,
    Json.strings, strings]

theorem roles_not_always_read_back :
    ¬((∀ claims, Verified claims → forwardedRoles claims = some claims.realmAccess.roles) ∧
      ∀ claims claims', Verified claims → Verified claims' →
        rolesHeader (allow claims) = rolesHeader (allow claims') →
        claims.realmAccess.roles = claims'.realmAccess.roles) := by
  intro ⟨_, injective⟩
  have same := injective _ _ (verified_roles ["admin,ops"]) (verified_roles ["admin", "ops"])
    (by decide)
  exact absurd same (by decide)

end Regnant.AuthSidecar
