import Regnant.AuthSidecar.Jwks

/-!
# Revoked keys

An entry of the cache expires `cache_ttl` after it was stamped, and it is stamped before it is
written. So every key set in the sidecar comes from a response of the endpoint, and how long it is
still returned is bounded from the time at which the endpoint produced that response, whichever
fetch overwrote which.
-/

namespace Regnant.AuthSidecar
open Machine
open Function (update_self update_of_ne)

variable {DecodingKey : Type} {fromRsaComponents : String → String → Option DecodingKey}
  {svc : AuthService} {endpoint : Nat → Jwks} {began delay : Nat}
  {s : Sidecar DecodingKey} {i : SidecarStep} {labels : List SidecarStep}

namespace Sidecar

/-- Keys are written to the cache, and used, within `delay` of the response they come from. -/
def Prompt (delay : Nat) (s : Sidecar DecodingKey) : SidecarStep → Prop
  | .write i => ∀ cache produced, s.calls i = some (.stamped cache produced) →
      s.now ≤ produced + delay
  | .finish i => ∀ keys produced, s.calls i = some (.written keys produced) →
      s.now ≤ produced + delay
  | _ => True

def Fetches (s : Sidecar DecodingKey) (i : SidecarStep) : Prop :=
  ∃ call response produced, i = .parse call ∧ s.calls call = some (.answered response produced)

def QuietFrom (since : Nat) (s : Sidecar DecodingKey) (i : SidecarStep) : Prop :=
  s.Fetches i → s.now < since

section
variable (fromRsaComponents svc endpoint) (delay : Nat) (fetched : Nat → Prop)

def CallOk (now : Nat) : JwksCall DecodingKey → Prop
  | .reading => True
  | .fetching => True
  | .answered response produced => produced ≤ now ∧ response = endpoint produced
  | .decoded keys produced =>
      produced ≤ now ∧ fetched produced ∧ keys = (endpoint produced).decoded fromRsaComponents
  | .stamped cache produced =>
      produced ≤ now ∧ fetched produced ∧
        cache.keys = (endpoint produced).decoded fromRsaComponents ∧
        cache.expiresAt ≤ now + svc.cacheTtl
  | .written keys produced =>
      produced ≤ now ∧ fetched produced ∧ keys = (endpoint produced).decoded fromRsaComponents
  | .returned _ (.error _) => True
  | .returned time (.ok keys) => ∃ produced, produced ≤ time ∧ fetched produced ∧
      time ≤ produced + (svc.cacheTtl + delay) ∧
        keys = (endpoint produced).decoded fromRsaComponents

def CacheOk (now : Nat) (cache : JwksCache DecodingKey) : Prop :=
  ∃ produced, produced ≤ now ∧ fetched produced ∧
    cache.keys = (endpoint produced).decoded fromRsaComponents ∧
    cache.expiresAt ≤ produced + (svc.cacheTtl + delay)

structure Sourced (s : Sidecar DecodingKey) : Prop where
  cache : ∀ cache, s.cache = some cache →
    CacheOk fromRsaComponents svc endpoint delay fetched s.now cache
  calls : ∀ i call, s.calls i = some call →
    CallOk fromRsaComponents svc endpoint delay fetched s.now call

end

variable {fetched : Nat → Prop}

theorem CallOk.later {now later : Nat} {call : JwksCall DecodingKey} (le : now ≤ later)
    (ok : CallOk fromRsaComponents svc endpoint delay fetched now call) :
    CallOk fromRsaComponents svc endpoint delay fetched later call := by
  cases call with
  | reading => trivial
  | fetching => trivial
  | answered response produced => exact ⟨ok.1.trans le, ok.2⟩
  | decoded keys produced => exact ⟨ok.1.trans le, ok.2⟩
  | stamped cache produced =>
      obtain ⟨before, source, same, expires⟩ := ok
      exact ⟨before.trans le, source, same, expires.trans (by omega)⟩
  | written keys produced => exact ⟨ok.1.trans le, ok.2⟩
  | returned time result =>
      cases result with
      | error error => trivial
      | ok keys => exact ok

theorem CacheOk.later {now later : Nat} {cache : JwksCache DecodingKey} (le : now ≤ later)
    (ok : CacheOk fromRsaComponents svc endpoint delay fetched now cache) :
    CacheOk fromRsaComponents svc endpoint delay fetched later cache := by
  obtain ⟨produced, before, rest⟩ := ok
  exact ⟨produced, before.trans le, rest⟩

theorem Sourced.setCall {call : JwksCall DecodingKey} {j : Nat}
    (sourced : s.Sourced fromRsaComponents svc endpoint delay fetched)
    (ok : CallOk fromRsaComponents svc endpoint delay fetched s.now call) :
    (s.setCall j call).Sourced fromRsaComponents svc endpoint delay fetched := by
  refine ⟨sourced.cache, fun i call' found => ?_⟩
  simp only [Sidecar.setCall] at found ⊢
  by_cases this : i = j
  · rw [this, update_self, Option.some.injEq] at found
    exact found ▸ ok
  · rw [update_of_ne this] at found
    exact sourced.calls i call' found

theorem sourced_start :
    (start began : Sidecar DecodingKey).Sourced fromRsaComponents svc endpoint delay fetched where
  cache := by
    intro cache held
    cases held
  calls := by
    intro i call found
    cases found

theorem Sourced.read {j : Nat}
    (sourced : s.Sourced fromRsaComponents svc endpoint delay fetched) :
    (s.step fromRsaComponents svc endpoint (.read j)).Sourced fromRsaComponents svc endpoint delay
      fetched := by
  simp only [step]
  split
  · rename_i cache _ held
    obtain ⟨produced, before, source, same, expires⟩ := sourced.cache cache held
    split
    · rename_i fresh
      -- an entry that is returned expires later than now
      exact sourced.setCall ⟨produced, before, source, (fresh.trans_le expires).le, same⟩
    · exact sourced.setCall trivial
  · exact sourced.setCall trivial
  · exact sourced

theorem Sourced.write {j : Nat} (prompt : s.Prompt delay (.write j))
    (sourced : s.Sourced fromRsaComponents svc endpoint delay fetched) :
    (s.step fromRsaComponents svc endpoint (.write j)).Sourced fromRsaComponents svc endpoint delay
      fetched := by
  simp only [step]
  split
  · rename_i cache produced found
    obtain ⟨before, source, same, expires⟩ := sourced.calls j _ found
    have soon : s.now ≤ produced + delay := prompt cache produced found
    have stored : ({ s with cache := some cache } : Sidecar DecodingKey).Sourced fromRsaComponents
        svc endpoint delay fetched := by
      refine ⟨fun cache' held => ?_, sourced.calls⟩
      obtain rfl := Option.some.inj held
      refine ⟨produced, before, source, same, expires.trans ?_⟩
      omega
    exact stored.setCall ⟨before, source, same⟩
  · exact sourced

theorem Sourced.step (prompt : s.Prompt delay i)
    (source : s.Fetches i → ∀ produced ≤ s.now, fetched produced)
    (sourced : s.Sourced fromRsaComponents svc endpoint delay fetched) :
    (s.step fromRsaComponents svc endpoint i).Sourced fromRsaComponents svc endpoint delay
      fetched := by
  cases i with
  | tick elapsed =>
      have le : s.now ≤ s.now + elapsed := Nat.le_add_right ..
      exact ⟨fun cache held => (sourced.cache cache held).later le,
        fun i call found => (sourced.calls i call found).later le⟩
  | call j =>
      simp only [Sidecar.step]
      split
      · exact sourced.setCall trivial
      · exact sourced
  | read j => exact sourced.read
  | answer j =>
      simp only [Sidecar.step]
      split
      · exact sourced.setCall ⟨le_rfl, rfl⟩
      · exact sourced
  | fail j error =>
      simp only [Sidecar.step]
      split
      · exact sourced.setCall trivial
      · exact sourced.setCall trivial
      · exact sourced
  | parse j =>
      simp only [Sidecar.step]
      split
      · rename_i response produced found
        obtain ⟨before, same⟩ := sourced.calls j _ found
        have succeeded : s.Fetches (.parse j) := ⟨j, response, produced, rfl, found⟩
        refine sourced.setCall ⟨before, source succeeded produced before, ?_⟩
        rw [same]
      · exact sourced
  | stamp j =>
      simp only [Sidecar.step]
      split
      · rename_i keys produced found
        obtain ⟨before, source, same⟩ := sourced.calls j _ found
        exact sourced.setCall ⟨before, source, same, le_rfl⟩
      · exact sourced
  | write j => exact sourced.write prompt
  | finish j =>
      simp only [Sidecar.step]
      split
      · rename_i keys produced found
        obtain ⟨before, source, same⟩ := sourced.calls j _ found
        have soon : s.now ≤ produced + delay := prompt keys produced found
        exact sourced.setCall ⟨produced, before, source, soon.trans (by omega), same⟩
      · exact sourced

theorem sourced_exec
    (prompt : Along (Sidecar.step fromRsaComponents svc endpoint)
      (fun s i => s.Prompt delay i ∧ (s.Fetches i → ∀ produced ≤ s.now, fetched produced))
      (start began) labels) :
    (exec (Sidecar.step fromRsaComponents svc endpoint) (start began) labels).Sourced
      fromRsaComponents svc endpoint delay fetched :=
  exec_invariant _ (fun _ _ sourced ok => sourced.step ok.1 ok.2) sourced_start prompt

end Sidecar

/-- Every key that a call returns was served within `cache_ttl + delay` of the return, and when no
fetch succeeds for that long, calls fail. -/
theorem revocation_bounded
    (prompt : Along (Sidecar.step fromRsaComponents svc endpoint) (Sidecar.Prompt delay)
      (.start began) labels) :
    let final := exec (Sidecar.step fromRsaComponents svc endpoint) (.start began) labels
    (∀ call time keys, final.calls call = some (.returned time (.ok keys)) →
      ∀ kid dk, keys.lookup kid = some dk →
        ∃ served, served ≤ time ∧ time ≤ served + (svc.cacheTtl + delay) ∧
          (endpoint served).Serves fromRsaComponents kid dk) ∧
    (∀ since, Along (Sidecar.step fromRsaComponents svc endpoint) (Sidecar.QuietFrom since)
        (.start began) labels →
      ∀ call time result, final.calls call = some (.returned time result) →
        since + (svc.cacheTtl + delay) ≤ time → ∃ error, result = .error error) := by
  intro final
  constructor
  · intro call time keys found kid dk member
    have sourced : final.Sourced fromRsaComponents svc endpoint delay fun _ => True :=
      Sidecar.sourced_exec (prompt.mono _ fun _ _ soon => ⟨soon, fun _ _ _ => trivial⟩)
    obtain ⟨served, before, -, after, same⟩ := sourced.calls call _ found
    refine ⟨served, before, after, decoded_serves ?_⟩
    rw [← same, member]
  · intro since quiet call time result found late
    cases result with
    | error error => exact ⟨error, rfl⟩
    | ok keys =>
        -- the response was produced before its fetch succeeded, hence before `since`
        have sourced : final.Sourced fromRsaComponents svc endpoint delay (· < since) :=
          Sidecar.sourced_exec ((prompt.and _ quiet).mono _ fun _ _ ok =>
            ⟨ok.1, fun success _ before => before.trans_lt (ok.2 success)⟩)
        obtain ⟨produced, before, early, after, same⟩ := sourced.calls call _ found
        omega

def signingKey : JwksKey :=
  ⟨"RSA", "k", none, none, some "n", some "e", none, none, none⟩

def revokingEndpoint (time : Nat) : Jwks :=
  if time < 10 then ⟨[signingKey]⟩ else ⟨[]⟩

def slowFetch : List SidecarStep :=
  [.call 0, .read 0, .answer 0, .tick 15, .parse 0, .stamp 0, .write 0, .finish 0, .tick 100,
    .call 1, .read 1]

theorem revoked_key_bounded :
    ∃ served, served ≤ 115 ∧ 115 ≤ served + (300 * 10 ^ 9 + 20) ∧
      (revokingEndpoint served).Serves (fun n e => some (n ++ e)) "k" "ne" := by
  have prompt : Along (Sidecar.step (fun n e => some (n ++ e)) (.new "r") revokingEndpoint)
      (Sidecar.Prompt 20) (.start 0) slowFetch := by
    refine ⟨trivial, trivial, trivial, trivial, trivial, trivial, ?_, ?_, trivial, trivial, trivial,
      trivial⟩
    · intro cache produced found
      cases found
      decide
    · intro keys produced found
      cases found
      decide
  exact (revocation_bounded prompt).1 1 115 _ rfl "k" "ne" rfl

end Regnant.AuthSidecar
