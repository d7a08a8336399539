import Regnant.Cli.Auth
import Regnant.Lib.Polling

/-!
# Device-code login and the replies of the token endpoint

The login reads an error as a token response, so it misses every error that comes without tokens:
it goes on polling after a refusal, and at its usual pace when it is told to slow down. It stops at
the first decisive reply exactly when no such error, and nothing that ends it early, is among the
replies.
-/

namespace Regnant.Cli
open AuthSidecar (Json field requiredField)
open CallTree (run run_bind run_invoke)
open Polling (Decision Ends Due Obeys Agrees agrees_stop_stop not_agrees_again_stop)

variable {Bytes : Type} {decoders : Decoders Bytes}

/-! ## What is asked of the login -/

def Response.oauthError (response : Response) : Option String :=
  response.body.bind fun
    | .obj members => requiredField members "error" Json.string
    | _ => none

def onError (error : String) : Decision (Except Error Token) :=
  if error = "authorization_pending" then .again 0
  else if error = "slow_down" then .again 2
  else .stop (.error (.message ("token endpoint error: " ++ error)))

def TokenResponse.token (decoders : Decoders Bytes) (body : TokenResponse) : Token :=
  ⟨body.accessToken, body.refreshToken, decodeSubject decoders body.accessToken⟩

def asked (decoders : Decoders Bytes) :
    Except ReqwestError Response → Decision (Except Error Token)
  | .error _ => .again 0
  | .ok response =>
      if response.isSuccess then
        match response.json TokenResponse.deserialize with
        | .ok body => .stop (.ok (body.token decoders))
        | .error _ => .again 0
      else
        match response.oauthError with
        | some error => onError error
        | none => .again 0

def expired : Except Error Token :=
  .error (.message "device-code flow expired")

structure Surroundings where
  device : Except ReqwestError Response
  reply : Nat → Except ReqwestError Response
  clock : Nat → Nat
  monotone : Monotone clock
  unbounded : ∀ t, ∃ n, t < clock n

structure Seen where
  readings : Nat := 0
  slept : Nat := 0
  waits : List Nat := []

def Seen.polls (s : Seen) : Nat :=
  s.waits.length - 1

def Seen.waited (s : Seen) (n : Nat) : Nat :=
  s.waits.getD (n + 1) 0

namespace Surroundings
variable (w : Surroundings)

def answer : Nat → Except ReqwestError Response
  | 0 => w.device
  | n + 1 => w.reply n

def perform : (c : Call) → Seen → Except Error c.Result × Seen
  | .post _ _, s =>
      ((w.answer s.waits.length).mapError .reqwest,
        { s with slept := 0, waits := s.waits ++ [s.slept] })
  | .println _, s => (.ok (), s)
  | .now, s => (.ok (w.clock s.readings), { s with readings := s.readings + 1 })
  | .sleep seconds, s => (.ok (), { s with slept := s.slept + seconds })

def Obtains (device : DeviceCode) : Prop :=
  ∃ response, w.device = .ok response ∧ response.errorForStatus = .ok response ∧
    response.json DeviceCode.deserialize = .ok device

def late (device : DeviceCode) (n : Nat) : Prop :=
  device.expiresIn * 10 ^ 9 < w.clock (n + 1) - w.clock 0

end Surroundings

/-- The login returns what the first decisive reply says, or fails once `expires_in` has elapsed. It
polls no more after that, and waits longer than the interval after every `slow_down`. -/
def StopsAtDecisive (decoders : Decoders Bytes) (w : Surroundings) (realm clientId : String)
    (device : DeviceCode) : Prop :=
  ∃ outcome s bound, (∀ rounds ≥ bound, run w.perform (deviceCodeLogin decoders rounds realm
      clientId) {} = (outcome.map some, s)) ∧
    Obeys (asked decoders) w.reply (w.late device) expired device.interval outcome s.polls s.waited

/-! ## What the login does -/

def made (decoders : Decoders Bytes) :
    Except ReqwestError Response → Decision (Except Error Token)
  | .error error => .stop (.error (.reqwest error))
  | .ok response =>
      match response.isSuccess, response.json TokenResponse.deserialize with
      | true, .ok body => .stop (.ok (body.token decoders))
      | true, .error error => .stop (.error (.reqwest error))
      | false, .ok body =>
          match body.error with
          | some error => onError error
          | none => .again 0
      | false, .error _ => .again 0

variable {w : Surroundings} {device : DeviceCode} {tokenUrl realm clientId : String}
  {n polls rounds : Nat} {s : Seen} {outcome : Except Error Token}

theorem late_succ (passed : w.late device n) : w.late device (n + 1) :=
  Nat.lt_of_lt_of_le passed (Nat.sub_le_sub_right (w.monotone (Nat.le_succ _)) _)

theorem exists_late (w : Surroundings) (device : DeviceCode) : ∃ n, w.late device n := by
  obtain ⟨n, passed⟩ := w.unbounded (device.expiresIn * 10 ^ 9 + w.clock 0)
  exact ⟨n, Nat.lt_sub_of_add_lt (Nat.lt_of_lt_of_le passed (w.monotone (Nat.le_succ n)))⟩

theorem run_pollToken_of_late (passed : w.late device n) (readings : s.readings = n + 1) :
    run w.perform (pollToken decoders device tokenUrl clientId (w.clock 0)
        (device.expiresIn * 10 ^ 9) (rounds + 1)) s =
      (expired.map some, { s with readings := n + 2 }) := by
  rw [pollToken, run_bind, run_invoke]
  simp only [Surroundings.perform, readings]
  have reached : w.clock (n + 1) - w.clock 0 > device.expiresIn * 10 ^ 9 := passed
  rw [if_pos reached]
  rfl

theorem run_pollToken_of_early (early : ¬w.late device n) (readings : s.readings = n + 1)
    (posts : s.waits.length = n + 1) :
    let waits := s.waits ++ [s.slept + device.interval]
    run w.perform (pollToken decoders device tokenUrl clientId (w.clock 0)
        (device.expiresIn * 10 ^ 9) (rounds + 1)) s =
      match made decoders (w.reply n) with
      | .stop outcome => (outcome.map some, ⟨n + 2, 0, waits⟩)
      | .again pause =>
          run w.perform (pollToken decoders device tokenUrl clientId (w.clock 0)
            (device.expiresIn * 10 ^ 9) rounds) ⟨n + 2, pause, waits⟩ := by
  intro waits
  rw [pollToken, run_bind, run_invoke]
  simp only [Surroundings.perform, readings]
  have inTime : ¬w.clock (n + 1) - w.clock 0 > device.expiresIn * 10 ^ 9 := early
  rw [if_neg inTime, run_bind, run_invoke]
  simp only [Surroundings.perform]
  rw [run_bind, run_invoke]
  simp only [Surroundings.perform, posts, Surroundings.answer]
  cases w.reply n with
  | error error => rfl
  | ok response =>
      simp only [Except.mapError, made]
      cases success : response.isSuccess with
      | true =>
          simp only [if_true]
          rw [run_bind, Command.ofReqwest, CallTree.run_ofExcept]
          cases response.json TokenResponse.deserialize with
          | error error => rfl
          | ok body => rfl
      | false =>
          cases response.json TokenResponse.deserialize with
          | error error => rfl
          | ok body =>
              simp only [if_neg Bool.false_ne_true]
              cases body.error with
              | none => rfl
              | some error =>
                  simp only [onError]
                  split
                  · rfl
                  · split
                    · rfl
                    · rfl

structure Paced (device : DeviceCode) (decide : Nat → Decision (Except Error Token)) (n polls : Nat)
    (s s' : Seen) : Prop where
  posts : s'.waits.length = polls + 1
  keeps : s.waits <+: s'.waits
  next : n < polls → s'.waited n = device.interval + s.slept
  paused : ∀ m pause, n ≤ m → m + 1 < polls → decide m = .again pause →
    s'.waited (m + 1) = device.interval + pause

theorem Seen.waited_of_prefix {s' : Seen} {slept : Nat} (posts : s.waits.length = n + 1)
    (kept : s.waits ++ [slept] <+: s'.waits) : s'.waited n = slept := by
  have here := List.prefix_iff_getElem?.mp kept (n + 1) (by simp [posts])
  rw [Seen.waited, List.getD_eq_getElem?_getD, here]
  simp [← posts]

variable (tokenUrl clientId) in
theorem run_pollToken (ends : Ends (made decoders) w.reply (w.late device) expired n outcome polls)
    (readings : s.readings = n + 1) (posts : s.waits.length = n + 1) :
    ∃ s', (∀ rounds, polls < n + rounds →
      run w.perform (pollToken decoders device tokenUrl clientId (w.clock 0)
        (device.expiresIn * 10 ^ 9) rounds) s = (outcome.map some, s')) ∧
      Paced device (fun m => made decoders (w.reply m)) n polls s s' := by
  induction ends generalizing s with
  | @expired n passed =>
      refine ⟨{ s with readings := n + 2 }, fun rounds enough => ?_, posts, List.prefix_rfl,
        fun below => absurd below (Nat.lt_irrefl n), fun m pause le below => by omega⟩
      obtain ⟨rounds, rfl⟩ := Nat.exists_eq_succ_of_ne_zero (n := rounds) (by omega)
      rw [run_pollToken_of_late passed readings]
  | @stopped n outcome early stops =>
      refine ⟨⟨n + 2, 0, s.waits ++ [s.slept + device.interval]⟩, fun rounds enough => ?_,
        by simp [posts], List.prefix_append _ _, fun _ => ?_, fun m pause le below => by omega⟩
      · obtain ⟨rounds, rfl⟩ := Nat.exists_eq_succ_of_ne_zero (n := rounds) (by omega)
        rw [run_pollToken_of_early early readings posts, stops]
      · rw [Seen.waited_of_prefix posts List.prefix_rfl, Nat.add_comm]
  | @again n pause polls outcome early continues rest ih =>
      obtain ⟨s', ran, paced⟩ := @ih ⟨n + 2, pause, s.waits ++ [s.slept + device.interval]⟩ rfl
        (by simp [posts])
      refine ⟨s', fun rounds enough => ?_, paced.posts,
        (List.prefix_append _ _).trans paced.keeps, fun _ => ?_, ?_⟩
      · have more := rest.le
        obtain ⟨rounds, rfl⟩ := Nat.exists_eq_succ_of_ne_zero (n := rounds) (by omega)
        rw [run_pollToken_of_early early readings posts, continues]
        exact ran rounds (by omega)
      · rw [Seen.waited_of_prefix posts paced.keeps, Nat.add_comm]
      · intro m pause' le below continues'
        rcases Nat.eq_or_lt_of_le le with rfl | above
        · rw [paced.next below]
          rw [continues] at continues'
          cases continues'
          rfl
        · exact paced.paused m pause' above below continues'

theorem run_deviceCodeLogin (obtained : w.Obtains device) :
    run w.perform (deviceCodeLogin decoders rounds realm clientId) {} =
      run w.perform (pollToken decoders device
        (AuthSidecar.trimEndSlashes realm ++ "/protocol/openid-connect/token") clientId (w.clock 0)
        (device.expiresIn * 10 ^ 9) rounds) ⟨1, 0, [0]⟩ := by
  obtain ⟨response, replied, passed, parsed⟩ := obtained
  simp [deviceCodeLogin, Command.context, Command.ofReqwest, Surroundings.perform,
    Surroundings.answer, replied, passed, parsed, Except.mapError]

/-! ## Which replies are handled as asked -/

theorem onError_ne_expired (error : String) : onError error ≠ .stop expired := by
  have other : "token endpoint error: " ++ error ≠ "device-code flow expired" := by
    intro same
    have first := congrArg (fun text => text.toList.head?) same
    simp at first
  rw [onError]
  split
  · simp
  · split
    · simp
    · simpa [expired] using other

theorem asked_ne_expired (reply : Except ReqwestError Response) :
    asked decoders reply ≠ .stop expired := by
  cases reply with
  | error error => simp [asked]
  | ok response =>
      rw [asked]
      split
      · split <;> simp [expired]
      · split
        · exact onError_ne_expired _
        · simp

theorem made_ne_expired (reply : Except ReqwestError Response) :
    made decoders reply ≠ .stop expired := by
  cases reply with
  | error error => simp [made, expired]
  | ok response =>
      rw [made]
      split
      · simp [expired]
      · simp [expired]
      · split
        · exact onError_ne_expired _
        · simp
      · simp

theorem map_some_injective {α : Type} {x y : Except Error α} (same : x.map some = y.map some) :
    x = y := by
  cases x <;> cases y <;> simp_all [Except.map]

variable (decoders realm clientId) in
theorem exists_run (obtained : w.Obtains device) :
    ∃ outcome polls s, Ends (made decoders) w.reply (w.late device) expired 0 outcome polls ∧
      (∀ rounds ≥ polls + 1, run w.perform (deviceCodeLogin decoders rounds realm clientId) {} =
        (outcome.map some, s)) ∧
      Paced device (fun m => made decoders (w.reply m)) 0 polls ⟨1, 0, [0]⟩ s := by
  obtain ⟨last, passed⟩ := exists_late w device
  obtain ⟨outcome, polls, ends⟩ :=
    Polling.exists_ends (made decoders) w.reply expired passed (Nat.zero_le last)
  let url := AuthSidecar.trimEndSlashes realm ++ "/protocol/openid-connect/token"
  obtain ⟨s, ran, paced⟩ := run_pollToken url clientId ends (s := ⟨1, 0, [0]⟩) rfl rfl
  refine ⟨outcome, polls, s, ends, fun rounds enough => ?_, paced⟩
  rw [run_deviceCodeLogin obtained]
  exact ran rounds (by omega)

theorem stops_iff_agrees (obtained : w.Obtains device) :
    StopsAtDecisive decoders w realm clientId device ↔
      ∀ n, Due (asked decoders) w.reply (w.late device) n →
        Agrees (w.late device (n + 1)) (asked decoders (w.reply n))
          (made decoders (w.reply n)) := by
  obtain ⟨outcome, polls, s, ends, ran, paced⟩ := exists_run decoders realm clientId obtained
  have posts : s.polls = polls := by rw [Seen.polls, paced.posts, Nat.add_sub_cancel]
  rw [← Polling.obeys_iff ends (fun n pause => paced.paused n pause (Nat.zero_le n))
    (fun n => late_succ) asked_ne_expired made_ne_expired]
  constructor
  · intro ⟨outcome', s', bound, ran', obeys⟩
    have same := (ran _ (Nat.le_max_right bound (polls + 1))).symm.trans
      (ran' _ (Nat.le_max_left bound (polls + 1)))
    obtain ⟨sameOutcome, rfl⟩ := Prod.mk.inj same
    obtain rfl : outcome = outcome' := map_some_injective sameOutcome
    rwa [posts] at obeys
  · intro obeys
    exact ⟨outcome, s, polls + 1, ran, by rwa [posts]⟩

theorem unread_errors_expire (obtained : w.Obtains device)
    (unread : ∀ n, ∃ response, w.reply n = .ok response ∧ response.isSuccess = false ∧
      response.json TokenResponse.deserialize = .error .decode) :
    ∃ s bound, ∀ rounds ≥ bound, run w.perform (deviceCodeLogin decoders rounds realm clientId) {} =
      (.error (.message "device-code flow expired"), s) := by
  obtain ⟨outcome, polls, s, ends, ran, -⟩ := exists_run decoders realm clientId obtained
  have continues (n : Nat) : made decoders (w.reply n) = .again 0 := by
    obtain ⟨response, replied, failure, fails⟩ := unread n
    simp only [replied, made, failure, fails]
  obtain rfl := ends.eq_expired_of_again fun n => ⟨0, continues n⟩
  exact ⟨s, polls + 1, ran⟩

/-- The error bodies that matter are read, and none is read where there is none. After the last poll
a `slow_down` does not matter. -/
structure Response.Handled (ending : Prop) (response : Response) : Prop where
  granted : response.isSuccess = true →
    ∃ body, response.json TokenResponse.deserialize = .ok body
  refused : ∀ error, response.isSuccess = false → response.oauthError = some error →
    error = "authorization_pending" ∨ (error = "slow_down" ∧ ending) ∨
      ∃ body, response.json TokenResponse.deserialize = .ok body
  other : ∀ body error, response.isSuccess = false → response.oauthError = none →
    response.json TokenResponse.deserialize = .ok body → body.error = some error →
    error = "authorization_pending" ∨ error = "slow_down"

section
variable {response : Response} {body : TokenResponse} {error : String} {ending : Prop}

theorem error_of_oauthError (parsed : response.json TokenResponse.deserialize = .ok body)
    (refused : response.oauthError = some error) : body.error = some error := by
  obtain ⟨status, content⟩ := response
  obtain ⟨json, rfl, isError⟩ := Option.bind_eq_some_iff.mp refused
  cases json with
  | obj members =>
      simp only [requiredField] at isError
      split at isError
      · rename_i name value one
        cases value with
        | str text =>
            obtain rfl : text = error := Option.some.inj isError
            simp only [Response.json, Option.bind_some] at parsed
            split at parsed
            · rename_i body' read
              cases parsed
              simp [TokenResponse.deserialize, field, one, Json.optionalString,
                Option.bind_eq_some_iff] at read
              obtain ⟨_, _, _, _, rfl⟩ := read
              rfl
            · cases parsed
        | _ => cases isError
      · cases isError
  | _ => cases isError

theorem onError_agrees_iff :
    Agrees ending (onError error) (.again 0) ↔
      error = "authorization_pending" ∨ (error = "slow_down" ∧ ending) := by
  rw [onError]
  split
  · rename_i pending
    simp [pending]
  · rename_i other
    split
    · rename_i slow
      simp [slow]
    · rename_i other'
      simp [other, other']

theorem agrees_onError_iff :
    Agrees ending (.again 0) (onError error) ↔
      error = "authorization_pending" ∨ error = "slow_down" := by
  rw [onError]
  split
  · rename_i pending
    simp [pending]
  · rename_i other
    split
    · rename_i slow
      simp [slow]
    · rename_i other'
      simp [other, other']

theorem agrees_of_success (success : response.isSuccess = true) :
    Agrees ending (asked decoders (.ok response)) (made decoders (.ok response)) ↔
      ∃ body, response.json TokenResponse.deserialize = .ok body := by
  simp only [asked, made, success, if_true]
  cases response.json TokenResponse.deserialize with
  | ok body => simp
  | error e => simp

theorem agrees_of_refused (failure : response.isSuccess = false)
    (refused : response.oauthError = some error) :
    Agrees ending (asked decoders (.ok response)) (made decoders (.ok response)) ↔
      error = "authorization_pending" ∨ (error = "slow_down" ∧ ending) ∨
        ∃ body, response.json TokenResponse.deserialize = .ok body := by
  simp only [asked, made, failure, refused, Bool.false_eq_true, if_false]
  cases parsed : response.json TokenResponse.deserialize with
  | ok body => simp [error_of_oauthError parsed refused, Agrees.refl]
  | error e => simp [onError_agrees_iff]

theorem agrees_of_other (failure : response.isSuccess = false)
    (other : response.oauthError = none) :
    Agrees ending (asked decoders (.ok response)) (made decoders (.ok response)) ↔
      ∀ body, response.json TokenResponse.deserialize = .ok body →
        ∀ error, body.error = some error →
          error = "authorization_pending" ∨ error = "slow_down" := by
  simp only [asked, made, failure, other, Bool.false_eq_true, if_false]
  cases response.json TokenResponse.deserialize with
  | error e => simp
  | ok body =>
      cases carried : body.error with
      | none => simp [carried]
      | some error => simp [agrees_onError_iff, carried]

theorem agrees_iff_handled :
    Agrees ending (asked decoders (.ok response)) (made decoders (.ok response)) ↔
      response.Handled ending := by
  cases success : response.isSuccess with
  | true =>
      rw [agrees_of_success success]
      exact ⟨fun granted => ⟨fun _ => granted, by simp [success], by simp [success]⟩,
        fun handled => handled.granted success⟩
  | false =>
      cases refused : response.oauthError with
      | some error =>
          rw [agrees_of_refused success refused]
          refine ⟨fun harmless => ⟨by simp [success], fun error' _ same => ?_, by simp [refused]⟩,
            fun handled => handled.refused error success refused⟩
          obtain rfl := Option.some.inj (refused.symm.trans same)
          exact harmless
      | none =>
          rw [agrees_of_other success refused]
          exact ⟨fun harmless => ⟨by simp [success], by simp [refused],
              fun body error _ _ parsed => harmless body parsed error⟩,
            fun handled body parsed error => handled.other body error success refused parsed⟩

end

/-- The login stops at the first decisive reply exactly when it gets a reply to every poll that is
due and handles it. -/
theorem login_stops_iff (decoders : Decoders Bytes) (w : Surroundings) (realm clientId : String)
    (device : DeviceCode) (obtained : w.Obtains device) :
    StopsAtDecisive decoders w realm clientId device ↔
      ∀ n, Due (asked decoders) w.reply (w.late device) n →
        ∃ response, w.reply n = .ok response ∧ response.Handled (w.late device (n + 1)) := by
  rw [stops_iff_agrees obtained]
  refine forall₂_congr fun n due => ?_
  cases w.reply n with
  | error error => simp [asked, made]
  | ok response =>
      rw [agrees_iff_handled]
      simp

def deviceCode : DeviceCode :=
  ⟨"d", "U", none, "https://keycloak/device", 5, 600⟩

def deviceReply : Response :=
  ⟨200, some (.obj [("device_code", .str "d"), ("user_code", .str "U"),
    ("verification_uri", .str "https://keycloak/device"), ("interval", .int 5),
    ("expires_in", .int 600)])⟩

def keycloak (reply : Nat → Response) : Surroundings where
  device := .ok deviceReply
  reply n := .ok (reply n)
  clock n := n * (5 * 10 ^ 9)
  monotone _ _ le := Nat.mul_le_mul_right _ le
  unbounded t :=
    ⟨t + 1, Nat.lt_of_lt_of_le (Nat.lt_succ_self t) (Nat.le_mul_of_pos_right _ (by simp))⟩

def errorReply (error : String) : Response :=
  ⟨400, some (.obj [("error", .str error)])⟩

def tokenReply : Response :=
  ⟨200, some (.obj [("access_token", .str "a"), ("refresh_token", .str "r")])⟩

def noDecoders : Decoders Unit :=
  ⟨fun _ => none, fun _ => none⟩

theorem keycloak_obtains (reply : Nat → Response) : (keycloak reply).Obtains deviceCode :=
  ⟨deviceReply, rfl, rfl, rfl⟩

theorem granted_login_stops :
    StopsAtDecisive noDecoders
      (keycloak fun n => if n = 0 then errorReply "authorization_pending" else tokenReply)
      "https://keycloak/realms/regnant" "regnant-cli" deviceCode := by
  refine (login_stops_iff _ _ _ _ _ (keycloak_obtains _)).mpr fun n _ => ⟨_, rfl, ?_⟩
  dsimp only
  by_cases first : n = 0
  · rw [if_pos first]
    refine ⟨nofun, ?_, nofun⟩
    rintro error - same
    exact .inl (Option.some.inj same).symm
  · rw [if_neg first]
    exact ⟨fun _ => ⟨_, rfl⟩, nofun, nofun⟩

theorem refused_login_not_stopped :
    ¬StopsAtDecisive noDecoders (keycloak fun _ => errorReply "access_denied")
      "https://keycloak/realms/regnant" "regnant-cli" deviceCode := by
  intro stops
  have agrees := (stops_iff_agrees (keycloak_obtains _)).mp stops 0
    ⟨by simp [Surroundings.late, keycloak, deviceCode],
      fun m below => absurd below (Nat.not_lt_zero m)⟩
  have refusal : asked noDecoders (.ok (errorReply "access_denied")) =
      .stop (.error (.message "token endpoint error: access_denied")) := rfl
  have missed : made noDecoders (.ok (errorReply "access_denied")) = .again 0 := rfl
  simp only [keycloak] at agrees
  rw [refusal, missed] at agrees
  exact Polling.not_agrees_stop_again agrees

end Regnant.Cli
