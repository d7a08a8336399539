import Regnant.Proof.Listings

namespace Regnant.Sovereign
open CallTree (run log run_bind run_invoke run_attempt calls_bind calls_invoke calls_attempt
  calls_ofExcept log_calls)
open Osb (Value)

variable {σ σ' : Type}

structure SecretStore where
  secrets : String → Option Secret
  listSecrets : String → Nat → Option String → ListSecrets

namespace SecretStore

def answer (b : SecretStore) :
    (c : SecretsCall) → σ → Except Exn (SecretsCall.Result c) × σ
  | .listSecrets namePrefix maxResults token, s =>
      (.ok (b.listSecrets namePrefix maxResults token), s)
  | .getSecretValue name, s =>
      match b.secrets name with
      | some secret => (.ok secret, s)
      | none => (.error .resourceNotFound, s)

inductive Paged (b : SecretStore) (namePrefix : String) :
    Option String → List (List String) → Prop where
  | last {token : Option String} {page : List String}
      (names : (b.listSecrets namePrefix 100 token).secretList.getD [] = page)
      (ends : truthy (b.listSecrets namePrefix 100 token).nextToken = none) :
      Paged b namePrefix token [page]
  | more {token : Option String} {next : String} {page : List String} {pages : List (List String)}
      (names : (b.listSecrets namePrefix 100 token).secretList.getD [] = page)
      (continues : (b.listSecrets namePrefix 100 token).nextToken = some next)
      (nonempty : next ≠ "") (rest : Paged b namePrefix (some next) pages) :
      Paged b namePrefix token (page :: pages)

structure Lists (b : SecretStore) (namePrefix : String) (pages : List (List String)) : Prop where
  paged : b.Paged namePrefix none pages
  listed : ∀ name, namePrefix.toList.isPrefixOf name.toList = true →
    (b.secrets name).isSome = true → name ∈ pages.flatten

end SecretStore

def SecretsCall.lists : SecretsCall → Bool
  | .listSecrets _ _ _ => true
  | .getSecretValue _ => false

namespace SecretsContextPlugin
variable {plugin : SecretsContextPlugin} {jsonLoads : String → Except Exn Value}
  {b b' : SecretStore} {pages : List (List String)} {token : Option String}
  {payload payload' : Payload Value}

def reading (b : SecretStore) (pages : List (List String)) : SecretsManager where
  listSecrets _ := pages
  getSecretValue name :=
    match b.secrets name with
    | some secret => .ok secret
    | none => .error .resourceNotFound

theorem run_readSecret (name : String) (s : σ) :
    run b.answer (readSecret jsonLoads name) s = (read jsonLoads (reading b pages) name, s) := by
  rw [readSecret, read, run_bind, run_invoke]
  simp only [SecretStore.answer, reading]
  cases b.secrets name with
  | none => rfl
  | some secret =>
      cases text : secret.secretString with
      | none => simp [bind, Except.bind, text]
      | some text' => simp [bind, Except.bind, text]

theorem reader_static :
    (plugin.reader jsonLoads).Static (σ := σ) b.answer
      (fun token => b.listSecrets plugin.keyPrefix 100 (truthy token))
      (plugin.load jsonLoads (reading b pages)) := by
  constructor
  · intro token s
    exact run_invoke _ _ _
  · intro name s
    simp only [reader, load]
    cases plugin.isLeaf name with
    | false => rfl
    | true =>
        simp only [Bool.not_true, Bool.false_eq_true, if_false]
        rw [run_bind, run_attempt, run_readSecret]
        cases read jsonLoads (reading b pages) name with
        | ok leaf => rfl
        | error e => cases e <;> rfl

theorem load_calls (name : String) :
    ((plugin.reader jsonLoads).load name).Calls fun c =>
      c = .getSecretValue name ∧ plugin.isLeaf name = true := by
  simp only [reader]
  cases leaf : plugin.isLeaf name with
  | false => trivial
  | true =>
      refine calls_bind (calls_attempt ?_) fun result => ?_
      · refine calls_bind (calls_invoke ⟨rfl, rfl⟩) fun secret => ?_
        cases secret.secretString with
        | none => trivial
        | some payload => exact calls_ofExcept _
      · cases result with
        | ok value => trivial
        | error e => cases e <;> trivial

theorem reader_lists :
    Paging.Reader.Lists (σ := σ) (plugin.reader jsonLoads) SecretsCall.lists := by
  constructor
  · intro token p s
    simp [reader, Paging.Reader.listings, SecretsCall.lists]
  · intro name p s
    apply Paging.Reader.listings_eq_zero
    exact (load_calls name).mono fun c read => by rw [read.1]; rfl

theorem pages_of_paged (paged : b.Paged plugin.keyPrefix token pages)
    (nonempty : truthy token = token) :
    Paging.Reader.Pages (plugin.reader jsonLoads)
      (fun token => b.listSecrets plugin.keyPrefix 100 (truthy token)) token pages := by
  induction paged with
  | @last token page names ends =>
      have names : (plugin.reader jsonLoads).names
          (b.listSecrets plugin.keyPrefix 100 (truthy token)) = page := by
        rw [nonempty]
        exact names
      subst names
      exact .last (by simp [reader, nonempty, ends])
  | @more token next page pages names continues given rest ih =>
      have names : (plugin.reader jsonLoads).names
          (b.listSecrets plugin.keyPrefix 100 (truthy token)) = page := by
        rw [nonempty]
        exact names
      subst names
      have given := truthy_some given
      exact .more (by simp [reader, nonempty, continues, given]) (ih given)

theorem run_refresh_call {n : Nat} {cache : Option (Cache Value)} {now : ℚ} {s : σ}
    (paged : b.Paged plugin.keyPrefix none pages) (enough : pages.length ≤ n) :
    let returned := plugin.call jsonLoads (reading b pages) cache now
    run (Cell.perform b.answer) (refresh plugin.refreshInterval (plugin.reader jsonLoads) n now)
      (s, cache) = (returned.1.map some, (s, returned.2)) :=
  run_refresh reader_static (pages_of_paged paged rfl) enough

theorem refreshes_collect {n : Nat} {cache : Option (Cache Value)} {now : ℚ} {s : σ}
    (uncached : fresh plugin.refreshInterval cache now = none)
    (paged : b.Paged plugin.keyPrefix none pages) (enough : pages.length ≤ n) :
    Refreshes b.answer SecretsCall.lists plugin.refreshInterval (plugin.reader jsonLoads)
        pages.length n cache now s payload ↔
      Collect.collect (plugin.load jsonLoads (reading b pages)) pages = .ok payload :=
  refreshes_iff uncached reader_static reader_lists (pages_of_paged paged rfl) enough

structure IsLeaves (plugin : SecretsContextPlugin) (jsonLoads : String → Except Exn Value)
    (b : SecretStore) (payload : Payload Value) : Prop where
  keys : (payload.map (·.1)).Nodup
  entries : ∀ key leaf, (key, leaf) ∈ payload ↔
    ∃ text, b.secrets (plugin.leafPrefix ++ key) = some ⟨some text⟩ ∧ jsonLoads text = .ok leaf

theorem isLeaf_append (plugin : SecretsContextPlugin) (key : String) :
    plugin.isLeaf (plugin.leafPrefix ++ key) = true := by
  rw [isLeaf, List.isPrefixOf_iff_prefix, String.toList_append]
  exact List.prefix_append _ _

theorem leafKey_append (plugin : SecretsContextPlugin) (key : String) :
    plugin.leafKey (plugin.leafPrefix ++ key) = key := by
  rw [leafKey, String.toList_append, List.drop_left, String.ofList_toList]

theorem leaf_under (plugin : SecretsContextPlugin) (key : String) :
    plugin.keyPrefix.toList.isPrefixOf (plugin.leafPrefix ++ key).toList = true := by
  rw [leafPrefix, List.isPrefixOf_iff_prefix, String.toList_append, String.toList_append,
    List.append_assoc]
  exact List.prefix_append _ _

theorem read_ok_iff {name : String} {leaf : Value} :
    read jsonLoads (reading b pages) name = .ok leaf ↔
      ∃ text, b.secrets name = some ⟨some text⟩ ∧ jsonLoads text = .ok leaf := by
  simp only [read, reading]
  cases b.secrets name with
  | none => simp [bind, Except.bind]
  | some secret =>
      obtain ⟨text⟩ := secret
      cases text <;> simp [bind, Except.bind]

theorem isLeaves_of_collect (listed : b.Lists plugin.keyPrefix pages)
    (collected : Collect.collect (plugin.load jsonLoads (reading b pages)) pages = .ok payload) :
    plugin.IsLeaves jsonLoads b payload := by
  have holds := Collect.Holds.collect load_functional collected
  refine ⟨holds.nodup, fun key leaf => ?_⟩
  rw [holds.mem]
  simp only [load_some_iff, read_ok_iff]
  constructor
  · rintro ⟨name, -, leaf, rfl, read⟩
    rwa [← name_eq leaf]
  · rintro ⟨text, found, loads⟩
    have member := listed.listed _ (leaf_under plugin key) (by rw [found]; rfl)
    exact ⟨_, member, isLeaf_append plugin key, leafKey_append plugin key, text, found, loads⟩

/-- The string of every leaf loads, or raises what the plugin lets pass. -/
def LeavesLoad (plugin : SecretsContextPlugin) (jsonLoads : String → Except Exn Value)
    (b : SecretStore) : Prop :=
  ∀ key text, b.secrets (plugin.leafPrefix ++ key) = some ⟨some text⟩ →
    jsonLoads text ∈ [.error .resourceNotFound, .error .jsonDecodeError] ∨
      ∃ leaf, jsonLoads text = .ok leaf

theorem leaves_collect_iff (listed : b.Lists plugin.keyPrefix pages)
    (strings : ∀ key, b.secrets (plugin.leafPrefix ++ key) ≠ some ⟨none⟩) :
    (∃ payload, Collect.collect (plugin.load jsonLoads (reading b pages)) pages = .ok payload) ↔
      plugin.LeavesLoad jsonLoads b := by
  have loads_iff (name : String) :
      (∃ loaded, plugin.load jsonLoads (reading b pages) name = .ok loaded) ↔
        (plugin.isLeaf name = true → ∀ text, b.secrets name = some ⟨some text⟩ →
          jsonLoads text ∈ [.error .resourceNotFound, .error .jsonDecodeError] ∨
            ∃ leaf, jsonLoads text = .ok leaf) := by
    have serves : (∃ loaded, plugin.load jsonLoads (reading b pages) name = .ok loaded ∧
        ∀ entry ∈ loaded, True) ↔ _ := load_serves_iff
    simp only [implies_true, and_true] at serves
    rw [serves]
    refine forall_congr' fun leaf => ?_
    rw [name_eq leaf]
    simp only [read, reading]
    cases found : b.secrets (plugin.leafPrefix ++ plugin.leafKey name) with
    | none => simp [bind, Except.bind]
    | some secret =>
        obtain ⟨text⟩ := secret
        cases text with
        | none => exact absurd found (strings _)
        | some text => simp [bind, Except.bind]
  rw [Collect.collect_ok_iff]
  simp only [loads_iff]
  constructor
  · intro all key text found
    obtain ⟨page, here, member⟩ := List.mem_flatten.mp
      (listed.listed _ (leaf_under plugin key) (by rw [found]; rfl))
    exact all page here _ member (isLeaf_append plugin key) text found
  · intro load page _ name _ leaf text found
    rw [name_eq leaf] at found
    exact load _ text found

theorem IsLeaves.perm (same : ∀ key, b'.secrets (plugin.leafPrefix ++ key) =
      b.secrets (plugin.leafPrefix ++ key))
    (isLeaves : plugin.IsLeaves jsonLoads b payload)
    (isLeaves' : plugin.IsLeaves jsonLoads b' payload') : payload'.Perm payload := by
  rw [List.perm_ext_iff_of_nodup isLeaves'.keys.of_map isLeaves.keys.of_map]
  rintro ⟨key, leaf⟩
  rw [isLeaves.entries, isLeaves'.entries, same]

/-- The plugin returns exactly the leaves, reads nothing else, and returns the same from every store
with the same leaves. -/
structure ExposesLeaves (plugin : SecretsContextPlugin) (jsonLoads : String → Except Exn Value)
    (b : SecretStore) (pages : List (List String)) (n : Nat) (cache : Option (Cache Value))
    (now : ℚ) (s : σ) : Prop where
  returns : ∃ payload, plugin.IsLeaves jsonLoads b payload ∧
    Refreshes b.answer SecretsCall.lists plugin.refreshInterval (plugin.reader jsonLoads)
      pages.length n cache now s payload ∧
    ∀ (b' : SecretStore) (pages' : List (List String)) (n' : Nat) (cache' : Option (Cache Value))
      (now' : ℚ) (s' : σ), (∀ key, b'.secrets (plugin.leafPrefix ++ key) =
        b.secrets (plugin.leafPrefix ++ key)) →
      fresh plugin.refreshInterval cache' now' = none → b'.Lists plugin.keyPrefix pages' →
      pages'.length ≤ n' →
      ∃ payload', Refreshes b'.answer SecretsCall.lists plugin.refreshInterval
        (plugin.reader jsonLoads) pages'.length n' cache' now' s' payload' ∧ payload'.Perm payload
  reads : ∀ call ∈ Cell.outer (log (Cell.perform b.answer)
      (refresh plugin.refreshInterval (plugin.reader jsonLoads) n now) (s, cache)),
    ∀ name, call.1 = .getSecretValue name → plugin.isLeaf name = true

theorem reads_leaves (plugin : SecretsContextPlugin) (jsonLoads : String → Except Exn Value)
    (p : (c : SecretsCall) → σ → Except Exn (SecretsCall.Result c) × σ) (n : Nat)
    (cache : Option (Cache Value)) (now : ℚ) (s : σ)
    (uncached : fresh plugin.refreshInterval cache now = none) :
    ∀ call ∈ Cell.outer (log (Cell.perform p)
        (refresh plugin.refreshInterval (plugin.reader jsonLoads) n now) (s, cache)),
      ∀ name, call.1 = .getSecretValue name → plugin.isLeaf name = true := by
  have calls : ((plugin.reader jsonLoads).walk n none []).Calls
      fun c => ∀ name, c = .getSecretValue name → plugin.isLeaf name = true := by
    apply Paging.Reader.calls_walk
    · intro token
      refine calls_invoke fun name same => ?_
      cases same
    · intro name
      refine (load_calls name).mono fun c read name' same => ?_
      rw [read.1] at same
      cases same
      exact read.2
  rw [log_refresh_of_stale uncached]
  exact log_calls p calls

/-- An uncached call ends after one listing call for each page, and returns the leaves and nothing
else, the same for all stores with the same leaves, exactly when the string of every leaf loads or
raises what the plugin lets pass. -/
theorem leaves_exact_iff (plugin : SecretsContextPlugin) (jsonLoads : String → Except Exn Value)
    (b : SecretStore) (pages : List (List String)) (n : Nat) (cache : Option (Cache Value))
    (now : ℚ) (s : σ) (uncached : fresh plugin.refreshInterval cache now = none)
    (listed : b.Lists plugin.keyPrefix pages) (enough : pages.length ≤ n)
    (strings : ∀ key, b.secrets (plugin.leafPrefix ++ key) ≠ some ⟨none⟩) :
    plugin.ExposesLeaves jsonLoads b pages n cache now s ↔ plugin.LeavesLoad jsonLoads b := by
  constructor
  · intro exposes
    obtain ⟨payload, -, refreshes, -⟩ := exposes.returns
    have collected := (refreshes_collect uncached listed.paged enough).mp refreshes
    exact (leaves_collect_iff listed strings).mp ⟨payload, collected⟩
  · intro load
    obtain ⟨payload, collected⟩ := (leaves_collect_iff listed strings).mpr load
    have isLeaves := isLeaves_of_collect listed collected
    refine ⟨⟨payload, isLeaves, ?_, ?_⟩, reads_leaves plugin jsonLoads b.answer n cache now s
      uncached⟩
    · exact (refreshes_collect uncached listed.paged enough).mpr collected
    · intro b' pages' n' cache' now' s' same uncached' listed' enough'
      -- the other store has the same leaves, so it meets the condition as well
      have strings' : ∀ key, b'.secrets (plugin.leafPrefix ++ key) ≠ some ⟨none⟩ := by
        intro key
        rw [same]
        exact strings key
      have load' : plugin.LeavesLoad jsonLoads b' := by
        intro key text found
        rw [same] at found
        exact load key text found
      obtain ⟨payload', collected'⟩ := (leaves_collect_iff listed' strings').mpr load'
      refine ⟨payload', ?_, isLeaves.perm same (isLeaves_of_collect listed' collected')⟩
      exact (refreshes_collect uncached' listed'.paged enough').mpr collected'

def loadsNumber (text : String) : Except Exn Value :=
  if text.toList = [] ∨ !text.toList.all Char.isDigit then .error .jsonDecodeError
  else if 4300 < text.toList.length then .error (.other "ValueError")
  else .ok (.int (text.toList.foldl (fun n digit => 10 * n + (digit.toNat - '0'.toNat)) 0))

def withAuthority : SecretStore where
  secrets name := [("regnant/ca/key", ⟨some "private"⟩), ("regnant/leaf/a", ⟨some "1"⟩),
    ("regnant/leaf/b", ⟨some "-"⟩)].lookup name
  listSecrets _ _ token :=
    match token with
    | none => ⟨some ["regnant/ca/key", "regnant/leaf/a"], some "1"⟩
    | _ => ⟨some ["regnant/leaf/b"], none⟩

theorem withAuthority_exposed :
    ExposesLeaves (σ := Unit) {} loadsNumber withAuthority
      [["regnant/ca/key", "regnant/leaf/a"], ["regnant/leaf/b"]] 2 none 0 () := by
  have listed : withAuthority.Lists "regnant/"
      [["regnant/ca/key", "regnant/leaf/a"], ["regnant/leaf/b"]] := by
    refine ⟨.more rfl rfl (by decide) (.last rfl rfl), fun name _ found => ?_⟩
    obtain ⟨secret, member, same⟩ := List.lookup_isSome_iff.mp found
    obtain rfl := beq_iff_eq.mp same
    simp only [List.mem_cons, List.not_mem_nil, or_false] at member
    rcases member with rfl | rfl | rfl <;> decide
  have stored (name : String) (secret : Secret) (found : withAuthority.secrets name = some secret) :
      secret ∈ [⟨some "private"⟩, ⟨some "1"⟩, ⟨some "-"⟩] := by
    obtain ⟨before, after, same, -⟩ := List.lookup_eq_some_iff.mp found
    have member : (name, secret) ∈ before ++ (name, secret) :: after := by simp
    rw [← same] at member
    simp only [List.mem_cons, Prod.mk.injEq, List.not_mem_nil, or_false] at member
    rcases member with ⟨-, rfl⟩ | ⟨-, rfl⟩ | ⟨-, rfl⟩ <;> simp
  refine (leaves_exact_iff {} loadsNumber withAuthority _ 2 none 0 () rfl listed (Nat.le_refl 2)
    fun key missing => ?_).mpr fun key text found => ?_
  · simpa using stored _ _ missing
  · have member := stored _ _ found
    simp only [List.mem_cons, Secret.mk.injEq, Option.some.injEq, List.not_mem_nil, or_false]
      at member
    rcases member with rfl | rfl | rfl
    · exact .inl (by decide)
    · exact .inr ⟨.int 1, by decide⟩
    · exact .inl (by decide)

def ones (n : Nat) : String :=
  String.ofList (List.replicate n '1')

theorem loadsNumber_ones {n : Nat} (long : 4300 < n) :
    loadsNumber (ones n) = .error (.other "ValueError") := by
  have digits : (List.replicate n '1').all Char.isDigit = true := by
    rw [List.all_eq_true]
    intro digit member
    obtain rfl := List.eq_of_mem_replicate member
    decide
  have nonempty : n ≠ 0 := Nat.ne_of_gt (Nat.lt_of_lt_of_le (Nat.succ_pos _) long)
  rw [loadsNumber, ones, String.toList_ofList, digits, List.length_replicate, if_neg, if_pos long]
  simpa using nonempty

def longNumber : SecretStore where
  secrets name := if name = "regnant/leaf/a" then some ⟨some (ones 5000)⟩ else none
  listSecrets _ _ _ := ⟨some ["regnant/leaf/a"], none⟩

theorem leaves_not_always_exact :
    ¬∀ (plugin : SecretsContextPlugin) (jsonLoads : String → Except Exn Value) (b : SecretStore)
      (pages : List (List String)) (n : Nat) (now : ℚ), b.Lists plugin.keyPrefix pages →
      pages.length ≤ n → (∀ key, b.secrets (plugin.leafPrefix ++ key) ≠ some ⟨none⟩) →
      plugin.ExposesLeaves jsonLoads b pages n none now () := by
  intro always
  have listed : longNumber.Lists "regnant/" [["regnant/leaf/a"]] := by
    refine ⟨.last rfl rfl, fun name _ found => ?_⟩
    by_cases same : name = "regnant/leaf/a"
    · subst same
      decide
    · simp [longNumber, same] at found
  have strings (key : String) :
      longNumber.secrets (leafPrefix {} ++ key) ≠ some ⟨none⟩ := by
    simp only [longNumber]
    split <;> simp
  obtain ⟨payload, -, refreshes, -⟩ :=
    (always {} loadsNumber longNumber _ 1 0 listed (Nat.le_refl 1) strings).returns
  have paged : longNumber.Paged (keyPrefix {}) none [["regnant/leaf/a"]] := listed.paged
  have collected := (refreshes_collect rfl paged (Nat.le_refl 1)).mp refreshes
  have load := (leaves_collect_iff listed strings).mp ⟨payload, collected⟩ "a" (ones 5000) rfl
  rw [loadsNumber_ones (by decide)] at load
  simp at load

end SecretsContextPlugin

end Regnant.Sovereign
