import Regnant.Osb.Storage
import Regnant.Proof.Contexts
import Regnant.Sovereign.Refresh

namespace Regnant.Sovereign
open CallTree (run log run_bind run_invoke log_bind calls_bind calls_invoke)
open Osb (Value)

variable {Obj Bytes σ : Type}

structure Refreshes {C : Type} {R : C → Type} {ρ ν : Type}
    (p : (c : C) → σ → Except Exn (R c) × σ) (lists : C → Bool) (refreshInterval : Int)
    (reader : Paging.Reader C R Exn ρ String ν String Obj) (pages n : Nat)
    (cache : Option (Cache Obj)) (now : ℚ) (s : σ) (payload : Payload Obj) : Prop where
  returned : (run (Cell.perform p) (refresh refreshInterval reader n now) (s, cache)).1 =
    .ok (some payload)
  kept : (run (Cell.perform p) (refresh refreshInterval reader n now) (s, cache)).2.2 =
    some ⟨payload, now⟩
  listings : Paging.Reader.listings lists (Cell.outer
    (log (Cell.perform p) (refresh refreshInterval reader n now) (s, cache))) = pages

section
variable {C : Type} {R : C → Type} {ρ ν : Type} {p : (c : C) → σ → Except Exn (R c) × σ}
  {lists : C → Bool} {refreshInterval : Int} {n : Nat} {cache : Option (Cache Obj)} {now : ℚ}
  {s : σ} {payload : Payload Obj}
  {reader : Paging.Reader C R Exn ρ String ν String Obj} {respond : Option String → ρ}
  {load : ν → Except Exn (Option (String × Obj))} {pages : List (List ν)}

theorem run_refresh_of_fresh (isFresh : fresh refreshInterval cache now = some payload) :
    run (Cell.perform p) (refresh refreshInterval reader n now) (s, cache) =
      (.ok (some payload), (s, cache)) := by
  rw [refresh, run_bind, Cell.run_get]
  simp only [isFresh]
  rfl

theorem run_refresh_of_stale (stale : fresh refreshInterval cache now = none) :
    run (Cell.perform p) (refresh refreshInterval reader n now) (s, cache) =
      match run p (reader.walk n none []) s with
      | (.ok (some payload), s') => (.ok (some payload), (s', some ⟨payload, now⟩))
      | (.ok none, s') => (.ok none, (s', cache))
      | (.error e, s') => (.error e, (s', cache)) := by
  rw [refresh, run_bind, Cell.run_get]
  simp only [stale]
  rw [run_bind, Cell.run_lift]
  cases run p (reader.walk n none []) s with
  | mk result s' =>
      cases result with
      | error e => rfl
      | ok collected =>
          cases collected with
          | none => rfl
          | some payload =>
              show run (Cell.perform p) (Cell.set (some ⟨payload, now⟩) >>= fun _ =>
                pure (some payload)) (s', cache) = _
              rw [run_bind, Cell.run_set]
              rfl

theorem run_refresh (static : reader.Static p respond load)
    (listed : Paging.Reader.Pages reader respond none pages) (enough : pages.length ≤ n) :
    let returned := cached refreshInterval (Collect.collect load pages) cache now
    run (Cell.perform p) (refresh refreshInterval reader n now) (s, cache) =
      (returned.1.map some, (s, returned.2)) := by
  intro returned
  cases isFresh : fresh refreshInterval cache now with
  | some payload =>
      have same : returned = _ := cached_of_fresh isFresh
      rw [run_refresh_of_fresh isFresh, same]
      rfl
  | none =>
      rw [run_refresh_of_stale isFresh, static.run_walk listed enough]
      simp only [returned, cached, isFresh, Collect.collect]
      cases pages.foldlM (fun entries page => List.foldlM (Collect.store load) entries page) [] <;>
        rfl

theorem log_refresh_of_stale (stale : fresh refreshInterval cache now = none) :
    Cell.outer (log (Cell.perform p) (refresh refreshInterval reader n now) (s, cache)) =
      log p (reader.walk n none []) s := by
  rw [refresh, log_bind, Cell.run_get, Cell.outer_append, Cell.outer_get, List.nil_append]
  simp only [stale]
  rw [log_bind, Cell.outer_append, Cell.outer_lift, Cell.run_lift]
  cases run p (reader.walk n none []) s with
  | mk result s' =>
      cases result with
      | error e => exact List.append_nil _
      | ok collected =>
          cases collected with
          | none => exact List.append_nil _
          | some payload =>
              show _ ++ Cell.outer (log (Cell.perform p)
                (Cell.set (some ⟨payload, now⟩) >>= fun _ => pure (some payload)) (s', cache)) = _
              rw [log_bind, Cell.outer_append, Cell.outer_set, Cell.run_set]
              exact List.append_nil _

theorem refreshes_iff (stale : fresh refreshInterval cache now = none)
    (static : reader.Static p respond load) (counts : Paging.Reader.Lists (σ := σ) reader lists)
    (listed : Paging.Reader.Pages reader respond none pages) (enough : pages.length ≤ n) :
    Refreshes p lists refreshInterval reader pages.length n cache now s payload ↔
      Collect.collect load pages = .ok payload := by
  have ran : run (Cell.perform p) (refresh refreshInterval reader n now) (s, cache) = _ :=
    run_refresh static listed enough
  simp only [cached, stale] at ran
  constructor
  · intro refreshes
    have returned := refreshes.returned
    rw [ran] at returned
    cases collected : Collect.collect load pages with
    | error e =>
        rw [collected] at returned
        cases returned
    | ok payload' =>
        rw [collected] at returned
        cases returned
        rfl
  · intro collected
    rw [collected] at ran
    refine ⟨by rw [ran]; rfl, by rw [ran], ?_⟩
    rw [log_refresh_of_stale stale]
    apply static.listings_walk counts listed enough
    rw [static.run_walk listed enough]
    exact congrArg (Except.map some) collected

end

/-! ## The bucket -/

structure S3Store (Bytes : Type) where
  objects : String → Option Bytes
  listObjects : String → Option String → ListObjectsV2

namespace S3Store

def answer (b : S3Store Bytes) :
    (c : S3Call) → σ → Except Exn (S3Call.Result Bytes c) × σ
  | .listObjectsV2 keyPrefix token, s => (.ok (b.listObjects keyPrefix token), s)
  | .getObject key, s =>
      match b.objects key with
      | some body => (.ok body, s)
      | none => (.error (.clientError "NoSuchKey"), s)

inductive Paged (b : S3Store Bytes) (keyPrefix : String) :
    Option String → List (List String) → Prop where
  | last {token : Option String} {page : List String}
      (contents : (b.listObjects keyPrefix token).contents.getD [] = page)
      (ends : (b.listObjects keyPrefix token).isTruncated.getD false = false) :
      Paged b keyPrefix token [page]
  | more {token : Option String} {next : String} {page : List String} {pages : List (List String)}
      (contents : (b.listObjects keyPrefix token).contents.getD [] = page)
      (truncated : (b.listObjects keyPrefix token).isTruncated.getD false = true)
      (continues : (b.listObjects keyPrefix token).nextContinuationToken = some next)
      (nonempty : next ≠ "") (rest : Paged b keyPrefix (some next) pages) :
      Paged b keyPrefix token (page :: pages)

structure Lists (b : S3Store Bytes) (keyPrefix : String) (pages : List (List String)) : Prop where
  paged : b.Paged keyPrefix none pages
  listed : ∀ key, key ∈ pages.flatten ↔
    keyPrefix.toList.isPrefixOf key.toList = true ∧ (b.objects key).isSome = true

end S3Store

theorem truthy_some {token : String} (nonempty : token ≠ "") :
    truthy (some token) = some token := by
  simp [truthy, nonempty]

def S3Call.lists : S3Call → Bool
  | .listObjectsV2 _ _ => true
  | .getObject _ => false

namespace S3ContextPlugin
variable {plugin : S3ContextPlugin} {safeLoad : Bytes → Except Exn Obj} {b : S3Store Bytes}
  {pages : List (List String)} {token : Option String}

def reading (b : S3Store Bytes) (pages : List (List String)) : Bucket Bytes where
  listObjects _ := pages
  getObject key :=
    match b.objects key with
    | some body => .ok body
    | none => .error (.clientError "NoSuchKey")

theorem reader_static :
    (plugin.reader safeLoad).Static (σ := σ) b.answer
      (fun token => b.listObjects plugin.keyPrefix (truthy token))
      (load safeLoad (reading b pages)) := by
  refine ⟨fun token s => run_invoke _ _ _, fun key s => ?_⟩
  simp only [reader, load, reading]
  cases isYaml key with
  | false => rfl
  | true =>
      simp only [Bool.not_true, Bool.false_eq_true, if_false]
      rw [run_bind, run_invoke]
      simp only [S3Store.answer]
      cases b.objects key with
      | none => rfl
      | some body =>
          dsimp only [bind, Except.bind]
          cases safeLoad body with
          | ok artifact => rfl
          | error e => cases e <;> rfl

theorem load_calls (key : String) :
    ((plugin.reader safeLoad).load key).Calls fun c => c = .getObject key := by
  simp only [reader]
  cases isYaml key with
  | false => trivial
  | true =>
      refine calls_bind (calls_invoke rfl) fun body => ?_
      cases safeLoad body with
      | ok artifact => trivial
      | error e => cases e <;> trivial

theorem reader_lists : Paging.Reader.Lists (σ := σ) (plugin.reader safeLoad) S3Call.lists := by
  constructor
  · intro token p s
    simp [reader, Paging.Reader.listings, S3Call.lists]
  · intro key p s
    apply Paging.Reader.listings_eq_zero
    exact (load_calls key).mono fun c same => by rw [same]; rfl

theorem pages_of_paged (paged : b.Paged plugin.keyPrefix token pages)
    (nonempty : truthy token = token) :
    Paging.Reader.Pages (plugin.reader safeLoad)
      (fun token => b.listObjects plugin.keyPrefix (truthy token)) token pages := by
  induction paged with
  | @last token page contents ends =>
      have names : (plugin.reader safeLoad).names
          (b.listObjects plugin.keyPrefix (truthy token)) = page := by
        rw [nonempty]
        exact contents
      subst names
      exact .last (by simp [reader, nonempty, ends])
  | @more token next page pages contents truncated continues given rest ih =>
      have names : (plugin.reader safeLoad).names
          (b.listObjects plugin.keyPrefix (truthy token)) = page := by
        rw [nonempty]
        exact contents
      subst names
      exact .more (by simp [reader, nonempty, truncated, continues]) (ih (truthy_some given))

theorem run_refresh_call {n : Nat} {cache : Option (Cache Obj)} {now : ℚ} {s : σ}
    (paged : b.Paged plugin.keyPrefix none pages) (enough : pages.length ≤ n) :
    let returned := plugin.call safeLoad (reading b pages) cache now
    run (Cell.perform b.answer) (refresh plugin.refreshInterval (plugin.reader safeLoad) n now)
      (s, cache) = (returned.1.map some, (s, returned.2)) :=
  run_refresh reader_static (pages_of_paged paged rfl) enough

theorem refreshes_collect {n : Nat} {cache : Option (Cache Obj)} {now : ℚ} {s : σ}
    {payload : Payload Obj} (uncached : fresh plugin.refreshInterval cache now = none)
    (paged : b.Paged plugin.keyPrefix none pages) (enough : pages.length ≤ n) :
    Refreshes b.answer S3Call.lists plugin.refreshInterval (plugin.reader safeLoad) pages.length n
        cache now s payload ↔
      Collect.collect (load safeLoad (reading b pages)) pages = .ok payload :=
  refreshes_iff uncached reader_static reader_lists (pages_of_paged paged rfl) enough

structure IsBucket (plugin : S3ContextPlugin) (safeLoad : Bytes → Except Exn Obj)
    (b : S3Store Bytes) (payload : Payload Obj) : Prop where
  keys : (payload.map (·.1)).Nodup
  entries : ∀ key artifact, (key, artifact) ∈ payload ↔
    plugin.keyPrefix.toList.isPrefixOf key.toList = true ∧ isYaml key = true ∧
      ∃ body, b.objects key = some body ∧ safeLoad body = .ok artifact

theorem reading_ok {key : String} {body : Bytes} :
    (reading b pages).getObject key = .ok body ↔ b.objects key = some body := by
  simp only [reading]
  cases b.objects key <;> simp

theorem reading_loads
    (legible : ∀ key body, plugin.keyPrefix.toList.isPrefixOf key.toList = true →
      b.objects key = some body →
      (∃ artifact, safeLoad body = .ok artifact) ∨ safeLoad body = .error .yamlError)
    {key : String} (under : plugin.keyPrefix.toList.isPrefixOf key.toList = true)
    (present : (b.objects key).isSome = true) :
    ∃ loaded, load safeLoad (reading b pages) key = .ok loaded := by
  rw [load]
  cases isYaml key with
  | false => exact ⟨none, rfl⟩
  | true =>
      obtain ⟨body, found⟩ := Option.isSome_iff_exists.mp present
      rw [reading_ok.mpr found]
      rcases legible key body under found with ⟨artifact, parsed⟩ | malformed
      · exact ⟨some (key, artifact), by simp [bind, Except.bind, parsed]⟩
      · exact ⟨none, by simp [bind, Except.bind, malformed]⟩

theorem isBucket_of_collect (listed : b.Lists plugin.keyPrefix pages) {payload : Payload Obj}
    (collected : Collect.collect (load safeLoad (reading b pages)) pages = .ok payload) :
    plugin.IsBucket safeLoad b payload := by
  have holds := Collect.Holds.collect load_functional collected
  refine ⟨holds.nodup, fun key artifact => ?_⟩
  rw [holds.mem]
  simp only [load_some_iff, reading_ok, listed.listed]
  constructor
  · rintro ⟨_, ⟨under, -⟩, rfl, yaml, read⟩
    exact ⟨under, yaml, read⟩
  · rintro ⟨under, yaml, body, found, parsed⟩
    exact ⟨key, ⟨under, by rw [found]; rfl⟩, rfl, yaml, body, found, parsed⟩

/-! ## Artifacts that were written -/

def Changes (key : String) : Osb.Call → Prop
  | .putObject key' _ => key' = key
  | .deleteObject key' => key' = key
  | _ => False

theorem perform_bucket {key : String} {self : Osb.ExecutionName} {c : Osb.Call} {w : Osb.Aws}
    (other : ¬Changes key c) : (Osb.perform self c w).2.bucket key = w.bucket key := by
  cases c with
  | putObject key' body => exact Function.update_of_ne (Ne.symm other) _ _
  | deleteObject key' => exact Function.update_of_ne (Ne.symm other) _ _
  | putInstance id item =>
      simp only [Osb.perform]
      cases w.instances id <;> rfl
  | putBinding bid id item =>
      simp only [Osb.perform]
      cases w.bindings (bid, id) <;> rfl
  | sendMessage queue payload => cases queue <;> rfl
  | _ => rfl

theorem later_bucket {key : String} {later : List (Osb.ExecutionName × Osb.Call)} {w : Osb.Aws}
    (others : ∀ c ∈ later, ¬Changes key c.2) :
    (later.foldl (fun w c => (Osb.perform c.1 c.2 w).2) w).bucket key = w.bucket key := by
  induction later generalizing w with
  | nil => rfl
  | cons c later ih =>
      obtain ⟨other, others⟩ := List.forall_mem_cons.mp others
      exact (ih others).trans (perform_bucket other)

theorem artifactKey_under {settings : Osb.Settings} (same : settings.artifactPrefix =
    plugin.keyPrefix) (id : String) :
    plugin.keyPrefix.toList.isPrefixOf (settings.artifactKey id).toList = true ∧
      isYaml (settings.artifactKey id) = true := by
  rw [isYaml, Osb.Settings.artifactKey, same, List.isPrefixOf_iff_prefix,
    List.isSuffixOf_iff_suffix]
  simp only [String.toList_append]
  exact ⟨⟨id.toList ++ ".yaml".toList, by simp⟩, ⟨plugin.keyPrefix.toList ++ id.toList, rfl⟩⟩

/-- An uncached call ends after one listing call for each page, and returns the objects of YAML
under the prefix that parse, however the listing is cut. So every artifact that was written and
neither replaced nor deleted is in it under its key, if it parses. -/
theorem context_exact (plugin : S3ContextPlugin) (safeLoad : Bytes → Except Exn Obj)
    (b : S3Store Bytes) (pages : List (List String)) (n : Nat) (cache : Option (Cache Obj))
    (now : ℚ) (s : σ) (uncached : fresh plugin.refreshInterval cache now = none)
    (listed : b.Lists plugin.keyPrefix pages) (enough : pages.length ≤ n)
    (legible : ∀ key body, plugin.keyPrefix.toList.isPrefixOf key.toList = true →
      b.objects key = some body →
      (∃ artifact, safeLoad body = .ok artifact) ∨ safeLoad body = .error .yamlError) :
    ∃ payload, Refreshes b.answer S3Call.lists plugin.refreshInterval (plugin.reader safeLoad)
        pages.length n cache now s payload ∧
      plugin.IsBucket safeLoad b payload ∧
      ∀ (settings : Osb.Settings) (safeDump : Value → Bytes) (w : Osb.Aws)
        (self : Osb.ExecutionName) (id : String) (document : Value)
        (later : List (Osb.ExecutionName × Osb.Call)),
        settings.artifactPrefix = plugin.keyPrefix →
        (∀ c ∈ later, ¬Changes (settings.artifactKey id) c.2) →
        ∃ key, (run (Osb.perform self) (Osb.ArtifactStore.write settings id document) w).1 =
            .ok key ∧
          (b.objects key = ((later.foldl (fun w c => (Osb.perform c.1 c.2 w).2)
              (run (Osb.perform self) (Osb.ArtifactStore.write settings id document) w).2).bucket
              key).map safeDump →
            ∀ artifact, safeLoad (safeDump document) = .ok artifact →
              (key, artifact) ∈ payload) := by
  have loads : ∀ page ∈ pages, ∀ key ∈ page, ∃ loaded,
      load safeLoad (reading b pages) key = .ok loaded := by
    intro page here key member
    obtain ⟨under, present⟩ := (listed.listed key).mp (List.mem_flatten.mpr ⟨page, here, member⟩)
    exact reading_loads legible under present
  obtain ⟨payload, collected⟩ := Collect.collect_ok_iff.mpr loads
  have isBucket := isBucket_of_collect listed collected
  refine ⟨payload, ?_, isBucket, ?_⟩
  · exact (refreshes_collect uncached listed.paged enough).mpr collected
  · intro settings safeDump w self id document later same others
    refine ⟨settings.artifactKey id, rfl, fun stored artifact parsed => ?_⟩
    obtain ⟨under, yaml⟩ := artifactKey_under same id
    refine (isBucket.entries _ artifact).mpr ⟨under, yaml, safeDump document, ?_, parsed⟩
    rw [stored, later_bucket others]
    simp [Osb.ArtifactStore.write, Osb.invoke, Osb.perform]

def threeObjects : S3Store String where
  objects key := [("envoy-resources/a.yaml", "a"), ("envoy-resources/b.yaml", "-"),
    ("envoy-resources/c.txt", "c")].lookup key
  listObjects _ token :=
    match token with
    | none => ⟨some ["envoy-resources/a.yaml"], some true, some "1"⟩
    | some "1" => ⟨none, some true, some "2"⟩
    | _ => ⟨some ["envoy-resources/b.yaml", "envoy-resources/c.txt"], some false, none⟩

theorem threeObjects_lists :
    threeObjects.Lists "envoy-resources/"
      [["envoy-resources/a.yaml"], [], ["envoy-resources/b.yaml", "envoy-resources/c.txt"]] where
  paged := .more rfl rfl rfl (by decide) (.more rfl rfl rfl (by decide) (.last rfl rfl))
  listed key := by
    simp only [threeObjects, List.lookup_isSome_iff]
    constructor
    · intro member
      simp only [List.flatten_cons, List.flatten_nil, List.append_nil, List.nil_append,
        List.cons_append, List.mem_cons, List.not_mem_nil, or_false] at member
      rcases member with rfl | rfl | rfl <;> decide
    · rintro ⟨-, object, member, same⟩
      obtain rfl := beq_iff_eq.mp same
      simp only [List.mem_cons, List.not_mem_nil, or_false] at member
      rcases member with rfl | rfl | rfl <;> decide

theorem threeObjects_context :
    let safeLoad := fun body : String =>
      if body = "-" then .error Exn.yamlError else .ok (Value.str body)
    ∃ payload, Refreshes (σ := Unit) threeObjects.answer S3Call.lists 30
        (reader {} safeLoad) 3 3 none 0 () payload ∧
      IsBucket {} safeLoad threeObjects payload ∧
      ("envoy-resources/a.yaml", Value.str "a") ∈ payload := by
  intro safeLoad
  have legible (key body : String) (under : "envoy-resources/".toList.isPrefixOf key.toList = true)
      (found : threeObjects.objects key = some body) :
      (∃ artifact, safeLoad body = .ok artifact) ∨ safeLoad body = .error .yamlError := by
    by_cases malformed : body = "-"
    · exact .inr (if_pos malformed)
    · exact .inl ⟨.str body, if_neg malformed⟩
  obtain ⟨payload, refreshes, isBucket, written⟩ := context_exact {} safeLoad threeObjects _ 3
    none 0 () rfl threeObjects_lists (Nat.le_refl 3) legible
  refine ⟨payload, refreshes, isBucket, ?_⟩
  obtain ⟨key, returned, here⟩ := written {} (fun _ => "a") .empty ⟨"a", 0⟩ "a" (.str "a") [] rfl
    (by simp)
  cases returned
  exact here rfl _ rfl

end S3ContextPlugin

end Regnant.Sovereign
