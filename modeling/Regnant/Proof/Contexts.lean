import Regnant.Lib.Machine
import Regnant.Sovereign.Artifacts
import Regnant.Sovereign.Plugins

namespace Regnant.Sovereign
open Osb (Value)

variable {Obj Bytes Contents : Type}

section
variable {refreshInterval : Int} {fetch : Except Exn (Payload Obj)} {cache : Option (Cache Obj)}
  {now : ℚ} {payload : Payload Obj}

theorem fresh_eq_some :
    fresh refreshInterval cache now = some payload ↔
      ∃ c ∈ cache, now - c.fetchedAt < refreshInterval ∧ c.payload = payload := by
  cases cache <;> simp [fresh]

theorem cached_of_fresh (isFresh : fresh refreshInterval cache now = some payload) :
    cached refreshInterval fetch cache now = (.ok payload, cache) := by
  simp only [cached, isFresh]

theorem cached_of_stale (stale : fresh refreshInterval cache now = none) :
    (cached refreshInterval fetch cache now).1 = fetch := by
  simp only [cached, stale]
  cases fetch <;> rfl

theorem cached_fills (stale : fresh refreshInterval cache now = none)
    (fetched : fetch = .ok payload) :
    (cached refreshInterval fetch cache now).2 = some ⟨payload, now⟩ := by
  simp only [cached, stale, fetched]

end

structure Called (Contents Obj : Type) where
  cache : Option (Cache Obj) := none
  calls : List (Contents × ℚ) := []

namespace Called
section
variable (call : Contents → Option (Cache Obj) → ℚ → Except Exn (Payload Obj) × Option (Cache Obj))

def step (s : Called Contents Obj) (now : Contents × ℚ) : Called Contents Obj :=
  ⟨(call now.1 s.cache now.2).2, now :: s.calls⟩

/-- The call raises nothing, and its payload is right for the contents that it found, or that a call
less than the refresh interval ago found. -/
def Answers (refreshInterval : Int) (right : Contents → Payload Obj → Prop)
    (s : Called Contents Obj) (now : Contents × ℚ) : Prop :=
  ∃ payload, (call now.1 s.cache now.2).1 = .ok payload ∧
    (right now.1 payload ∨
      ∃ earlier ∈ s.calls, now.2 - earlier.2 < refreshInterval ∧ right earlier.1 payload)

end

def Filled (right : Contents → Payload Obj → Prop) (s : Called Contents Obj) : Prop :=
  ∀ cache ∈ s.cache, ∃ earlier ∈ s.calls, earlier.2 = cache.fetchedAt ∧
    right earlier.1 cache.payload

variable {right : Contents → Payload Obj → Prop} {legible : Contents → Prop} {refreshInterval : Int}
  {fetch : Contents → Except Exn (Payload Obj)} {s : Called Contents Obj} {now : Contents × ℚ}

theorem answers_iff_legible
    (complete : ∀ contents, legible contents →
      ∃ payload, fetch contents = .ok payload ∧ right contents payload)
    (sound : ∀ contents earlier payload, fetch contents = .ok payload → right earlier payload →
      legible contents)
    (filled : s.Filled right) :
    Answers (fun contents => cached refreshInterval (fetch contents)) refreshInterval right s now ↔
      (fresh refreshInterval s.cache now.2 = none → legible now.1) := by
  simp only [Answers]
  cases isFresh : fresh refreshInterval s.cache now.2 with
  | some payload =>
      obtain ⟨cache, present, young, rfl⟩ := fresh_eq_some.mp isFresh
      obtain ⟨earlier, called, same, holds⟩ := filled cache present
      rw [← same] at young
      exact iff_of_true ⟨_, by rw [cached_of_fresh isFresh], .inr ⟨earlier, called, young, holds⟩⟩
        fun none => by cases none
  | none =>
      simp only [cached_of_stale isFresh, forall_const]
      constructor
      · rintro ⟨payload, fetched, holds | ⟨earlier, -, -, holds⟩⟩
        · exact sound _ _ _ fetched holds
        · exact sound _ _ _ fetched holds
      · intro legibly
        obtain ⟨payload, fetched, holds⟩ := complete _ legibly
        exact ⟨payload, fetched, .inl holds⟩

theorem Filled.step
    (complete : ∀ contents, legible contents →
      ∃ payload, fetch contents = .ok payload ∧ right contents payload)
    (filled : s.Filled right)
    (legibly : fresh refreshInterval s.cache now.2 = none → legible now.1) :
    (Called.step (fun contents => cached refreshInterval (fetch contents)) s now).Filled right := by
  intro cache present
  simp only [Called.step] at present ⊢
  cases isFresh : fresh refreshInterval s.cache now.2 with
  | some payload =>
      rw [cached_of_fresh isFresh] at present
      obtain ⟨earlier, called, filledBy⟩ := filled cache present
      exact ⟨earlier, .tail _ called, filledBy⟩
  | none =>
      obtain ⟨payload, fetched, holds⟩ := complete _ (legibly isFresh)
      rw [cached_fills isFresh fetched] at present
      obtain rfl := Option.some.inj present
      exact ⟨now, .head _, rfl, holds⟩

theorem answers_along_iff
    (complete : ∀ contents, legible contents →
      ∃ payload, fetch contents = .ok payload ∧ right contents payload)
    (sound : ∀ contents earlier payload, fetch contents = .ok payload → right earlier payload →
      legible contents) (calls : List (Contents × ℚ)) :
    let call := fun contents => cached refreshInterval (fetch contents)
    Machine.Along (Called.step call) (Answers call refreshInterval right) {} calls ↔
      Machine.Along (Called.step call)
        (fun s now => fresh refreshInterval s.cache now.2 = none → legible now.1) {} calls :=
  Machine.along_congr _ (I := Filled right)
    (fun _ _ filled => answers_iff_legible complete sound filled)
    (fun _ _ filled legibly => filled.step complete legibly) fun _ empty => by cases empty

end Called

/-! ## Artifacts -/

namespace S3ContextPlugin
variable (plugin : S3ContextPlugin) (j : Jinja Obj) (safeLoad : Bytes → Except Exn Obj)
  (bucket : Bucket Bytes)

structure IsArtifact (key : String) (artifact : Obj) : Prop where
  listed : ∃ page ∈ bucket.listObjects plugin.keyPrefix, key ∈ page
  yaml : isYaml key = true
  read : ∃ body, bucket.getObject key = .ok body ∧ safeLoad body = .ok artifact
  mapping : (j.get artifact).isSome = true

structure ServesArtifacts (payload : Payload Obj) : Prop where
  keys : (payload.map (·.1)).Nodup
  entries : ∀ key artifact, (key, artifact) ∈ payload ↔
    plugin.IsArtifact j safeLoad bucket key artifact
  rendered : ∀ template : Template, ∃ lines,
    List.Forall₂ (fun entry ls => template.artifactLines j entry.2 = some ls) payload lines ∧
      template.render j (payload.map (·.2)) = some (output lines.flatten)

/-- Every object of YAML that is listed can be read, and either fails to parse or has resources that
the templates can render. -/
def Legible : Prop :=
  ∀ page ∈ bucket.listObjects plugin.keyPrefix, ∀ key ∈ page, isYaml key = true →
    ∃ body, bucket.getObject key = .ok body ∧
      (safeLoad body = .error .yamlError ∨ ∃ artifact, safeLoad body = .ok artifact ∧
        ∀ template : Template, (template.artifactLines j artifact).isSome = true)

variable {plugin j safeLoad bucket} {key key' : String} {artifact : Obj} {payload : Payload Obj}

theorem load_some_iff :
    load safeLoad bucket key' = .ok (some (key, artifact)) ↔
      key' = key ∧ isYaml key' = true ∧
        ∃ body, bucket.getObject key' = .ok body ∧ safeLoad body = .ok artifact := by
  rw [load]
  cases isYaml key' with
  | false => simp
  | true =>
      cases bucket.getObject key' with
      | error e => simp [bind, Except.bind]
      | ok body =>
          cases parsed : safeLoad body with
          | ok artifact' => simp [bind, Except.bind, parsed]
          | error e => cases e <;> simp [bind, Except.bind, parsed]

theorem load_serves_iff {Serves : String × Obj → Prop} :
    (∃ loaded, load safeLoad bucket key = .ok loaded ∧ ∀ entry ∈ loaded, Serves entry) ↔
      (isYaml key = true → ∃ body, bucket.getObject key = .ok body ∧
        (safeLoad body = .error .yamlError ∨
          ∃ artifact, safeLoad body = .ok artifact ∧ Serves (key, artifact))) := by
  rw [load]
  cases isYaml key with
  | false => simp
  | true =>
      cases bucket.getObject key with
      | error e => simp [bind, Except.bind]
      | ok body =>
          cases parsed : safeLoad body with
          | ok artifact => simp [bind, Except.bind, parsed]
          | error e => cases e <;> simp [bind, Except.bind, parsed]

theorem rendered_iff {template : Template} :
    (∃ lines, List.Forall₂ (fun entry ls => template.artifactLines j entry.2 = some ls)
        payload lines ∧
        template.render j (payload.map (·.2)) = some (output lines.flatten)) ↔
      ∀ entry ∈ payload, (template.artifactLines j entry.2).isSome = true := by
  rw [← List.mapM_some_iff_forall
    (f := fun entry : String × Obj => template.artifactLines j entry.2)]
  refine exists_congr fun lines => ?_
  rw [List.mapM_eq_some_iff, and_iff_left_iff_imp, Template.render, List.mapM_map]
  intro all
  exact Option.map_eq_some_iff.mpr ⟨lines, List.mapM_eq_some_iff.mpr all, rfl⟩

theorem mapping_of_lines {template : Template}
    (lines : (template.artifactLines j artifact).isSome = true) :
    (j.get artifact).isSome = true := by
  rw [Template.artifactLines] at lines
  cases get : j.get artifact with
  | none => simp [get] at lines
  | some get => rfl

theorem load_functional (name name' key : String) (artifact artifact' : Obj)
    (loaded : load safeLoad bucket name = .ok (some (key, artifact)))
    (loaded' : load safeLoad bucket name' = .ok (some (key, artifact'))) :
    artifact = artifact' := by
  obtain ⟨rfl, -, -⟩ := load_some_iff.mp loaded
  obtain ⟨rfl, -, -⟩ := load_some_iff.mp loaded'
  rw [loaded] at loaded'
  cases loaded'
  rfl

theorem servesArtifacts_iff :
    plugin.ServesArtifacts j safeLoad bucket payload ↔ (payload.map (·.1)).Nodup ∧
      (∀ entry, entry ∈ payload ↔
        (∃ page ∈ bucket.listObjects plugin.keyPrefix, ∃ name ∈ page,
          load safeLoad bucket name = .ok (some entry)) ∧ (j.get entry.2).isSome = true) ∧
      ∀ entry ∈ payload, ∀ template : Template,
        (template.artifactLines j entry.2).isSome = true := by
  have wanted (key : String) (artifact : Obj) : plugin.IsArtifact j safeLoad bucket key artifact ↔
      (∃ page ∈ bucket.listObjects plugin.keyPrefix, ∃ name ∈ page,
        load safeLoad bucket name = .ok (some (key, artifact))) ∧
      (j.get artifact).isSome = true := by
    simp only [load_some_iff]
    constructor
    · rintro ⟨⟨page, listed, here⟩, yaml, read, mapping⟩
      exact ⟨⟨page, listed, key, here, rfl, yaml, read⟩, mapping⟩
    · rintro ⟨⟨page, listed, _, here, rfl, yaml, read⟩, mapping⟩
      exact ⟨⟨page, listed, here⟩, yaml, read, mapping⟩
  constructor
  · rintro ⟨keys, entries, rendered⟩
    exact ⟨keys, fun entry => (entries entry.1 entry.2).trans (wanted _ _),
      fun entry member template => rendered_iff.mp (rendered template) entry member⟩
  · rintro ⟨keys, entries, rendered⟩
    exact ⟨keys, fun key artifact => (entries (key, artifact)).trans (wanted _ _).symm,
      fun template => rendered_iff.mpr fun entry member => rendered entry member template⟩

theorem legible_iff_loads :
    plugin.Legible j safeLoad bucket ↔
      ∀ page ∈ bucket.listObjects plugin.keyPrefix, ∀ key ∈ page, ∃ loaded,
        load safeLoad bucket key = .ok loaded ∧ ∀ entry ∈ loaded, ∀ template : Template,
          (template.artifactLines j entry.2).isSome = true := by
  simp only [load_serves_iff]
  rfl

theorem fetch_of_legible (legible : plugin.Legible j safeLoad bucket) :
    ∃ payload, plugin.fetch safeLoad bucket = .ok payload ∧
      plugin.ServesArtifacts j safeLoad bucket payload := by
  have shaped (entry : String × Obj)
      (lines : ∀ template : Template, (template.artifactLines j entry.2).isSome = true) :
      (j.get entry.2).isSome = true :=
    mapping_of_lines (lines .clusters)
  obtain ⟨payload, collected, serves⟩ := Collect.collects_of_serves load_functional shaped
    (legible_iff_loads.mp legible)
  exact ⟨payload, collected, servesArtifacts_iff.mpr serves⟩

theorem legible_of_fetch {earlier : Bucket Bytes}
    (fetched : plugin.fetch safeLoad bucket = .ok payload)
    (serves : plugin.ServesArtifacts j safeLoad earlier payload) :
    plugin.Legible j safeLoad bucket :=
  legible_iff_loads.mpr (Collect.loads_of_serves load_functional fetched
    (servesArtifacts_iff.mp serves).2.2)

end S3ContextPlugin

/-! ## Leaves -/

namespace SecretsContextPlugin
variable (plugin : SecretsContextPlugin) (escape : Char → Yaml.Line)
  (str : Value → Option String) (json : Value → String) (jsonLoads : String → Except Exn Value)
  (secrets : SecretsManager)

def pemFields : List String :=
  ["certificate_pem", "private_key_pem", "ca_cert_pem"]

def IsStrings (leaf : Value) : Prop :=
  ∃ items, leaf = .dict items ∧ ∀ m ∈ items, ∃ s, m.2 = .str s

structure IsLeafObject (key : String) (leaf : Value) : Prop where
  listed : ∃ page ∈ secrets.listSecrets plugin.keyPrefix, ∃ name ∈ page,
    plugin.isLeaf name = true ∧ plugin.leafKey name = key ∧ read jsonLoads secrets name = .ok leaf
  strings : IsStrings leaf

abbrev leafJinja : Jinja Value :=
  valueJinja escape str fun v => some (json v)

structure ServesLeaves (payload : Payload Value) : Prop where
  keys : (payload.map (·.1)).Nodup
  entries : ∀ key leaf, (key, leaf) ∈ payload ↔ plugin.IsLeafObject jsonLoads secrets key leaf
  rendered : ∃ lines,
    List.Forall₂ (fun entry ls =>
      (leafJinja escape str json).secretLines entry.1 entry.2 = some ls) payload lines ∧
    renderSecrets (leafJinja escape str json) payload = some (output lines.flatten)

/-- Every leaf that is listed can be read as an object of strings with the fields of the template,
or else is no longer there or fails to parse. -/
def Legible : Prop :=
  ∀ page ∈ secrets.listSecrets plugin.keyPrefix, ∀ name ∈ page, plugin.isLeaf name = true →
    read jsonLoads secrets name ∈ [.error .resourceNotFound, .error .jsonDecodeError] ∨
      ∃ leaf, read jsonLoads secrets name = .ok leaf ∧ IsStrings leaf ∧
        ∀ field ∈ pemFields, field ∈ (members leaf).map (·.1)

variable {plugin escape str json jsonLoads secrets} {name name' key : String} {leaf : Value}
  {payload : Payload Value}

theorem load_some_iff :
    plugin.load jsonLoads secrets name = .ok (some (key, leaf)) ↔
      plugin.isLeaf name = true ∧ plugin.leafKey name = key ∧
        read jsonLoads secrets name = .ok leaf := by
  rw [load]
  cases plugin.isLeaf name with
  | false => simp
  | true =>
      cases read jsonLoads secrets name with
      | ok leaf' => simp
      | error e => cases e <;> simp

theorem load_serves_iff {Serves : String × Value → Prop} :
    (∃ loaded, plugin.load jsonLoads secrets name = .ok loaded ∧ ∀ entry ∈ loaded, Serves entry) ↔
      (plugin.isLeaf name = true →
        read jsonLoads secrets name ∈ [.error .resourceNotFound, .error .jsonDecodeError] ∨
          ∃ leaf, read jsonLoads secrets name = .ok leaf ∧ Serves (plugin.leafKey name, leaf)) := by
  rw [load]
  cases plugin.isLeaf name with
  | false => simp
  | true =>
      cases read jsonLoads secrets name with
      | ok leaf => simp
      | error e => cases e <;> simp

theorem name_eq (isLeaf : plugin.isLeaf name = true) :
    name = plugin.leafPrefix ++ plugin.leafKey name := by
  obtain ⟨rest, same⟩ := List.isPrefixOf_iff_prefix.mp isLeaf
  apply String.toList_inj.mp
  rw [leafKey, String.toList_append, String.toList_ofList, ← same, List.drop_left]

theorem load_functional (name name' key : String) (leaf leaf' : Value)
    (loaded : plugin.load jsonLoads secrets name = .ok (some (key, leaf)))
    (loaded' : plugin.load jsonLoads secrets name' = .ok (some (key, leaf'))) : leaf = leaf' := by
  obtain ⟨isLeaf, named, read⟩ := load_some_iff.mp loaded
  obtain ⟨isLeaf', named', read'⟩ := load_some_iff.mp loaded'
  have same : name = name' := by rw [name_eq isLeaf, name_eq isLeaf', named, named']
  subst same
  exact Except.ok.inj (read.symm.trans read')

theorem secretLines_isSome (strings : IsStrings leaf) :
    ((leafJinja escape str json).secretLines name leaf).isSome = true ↔
      ∀ field ∈ pemFields, field ∈ (members leaf).map (·.1) := by
  obtain ⟨items, rfl, -⟩ := strings
  have put (field : String) : (leafJinja escape str json).putJson (.dict items) field =
      (items.lookup field).map json := by
    cases found : items.lookup field <;> simp [Jinja.putJson, valueJinja, found]
  have some_iff (field : String) :
      field ∈ items.map (·.1) ↔ (items.lookup field).isSome = true := by
    rw [List.lookup_isSome_iff]
    simp
  simp only [Jinja.secretLines, put, members, pemFields, List.forall_mem_cons, some_iff]
  cases items.lookup "certificate_pem" <;> cases items.lookup "private_key_pem" <;>
    cases items.lookup "ca_cert_pem" <;> simp

theorem rendered_iff :
    (∃ lines, List.Forall₂ (fun entry ls =>
        (leafJinja escape str json).secretLines entry.1 entry.2 = some ls) payload lines ∧
        renderSecrets (leafJinja escape str json) payload = some (output lines.flatten)) ↔
      ∀ entry ∈ payload,
        ((leafJinja escape str json).secretLines entry.1 entry.2).isSome = true := by
  rw [← List.mapM_some_iff_forall]
  refine exists_congr fun lines => ?_
  rw [List.mapM_eq_some_iff, and_iff_left_iff_imp, renderSecrets]
  intro all
  exact Option.map_eq_some_iff.mpr ⟨lines, List.mapM_eq_some_iff.mpr all, rfl⟩

theorem servesLeaves_iff :
    plugin.ServesLeaves escape str json jsonLoads secrets payload ↔ (payload.map (·.1)).Nodup ∧
      (∀ entry, entry ∈ payload ↔
        (∃ page ∈ secrets.listSecrets plugin.keyPrefix, ∃ name ∈ page,
          plugin.load jsonLoads secrets name = .ok (some entry)) ∧ IsStrings entry.2) ∧
      ∀ entry ∈ payload, IsStrings entry.2 ∧
        ∀ field ∈ pemFields, field ∈ (members entry.2).map (·.1) := by
  have wanted (key : String) (leaf : Value) : plugin.IsLeafObject jsonLoads secrets key leaf ↔
      (∃ page ∈ secrets.listSecrets plugin.keyPrefix, ∃ name ∈ page,
        plugin.load jsonLoads secrets name = .ok (some (key, leaf))) ∧ IsStrings leaf := by
    simp only [load_some_iff]
    exact ⟨fun ⟨listed, strings⟩ => ⟨listed, strings⟩, fun ⟨listed, strings⟩ => ⟨listed, strings⟩⟩
  constructor
  · rintro ⟨keys, entries, rendered⟩
    have whole : ∀ entry, entry ∈ payload ↔ _ :=
      fun entry => (entries entry.1 entry.2).trans (wanted _ _)
    refine ⟨keys, whole, fun entry member => ?_⟩
    have strings := ((whole entry).mp member).2
    exact ⟨strings, (secretLines_isSome strings).mp (rendered_iff.mp rendered entry member)⟩
  · rintro ⟨keys, entries, rendered⟩
    refine ⟨keys, fun key leaf => (entries (key, leaf)).trans (wanted _ _).symm,
      rendered_iff.mpr fun entry member => ?_⟩
    obtain ⟨strings, fields⟩ := rendered entry member
    exact (secretLines_isSome strings).mpr fields

theorem legible_iff_loads :
    plugin.Legible jsonLoads secrets ↔
      ∀ page ∈ secrets.listSecrets plugin.keyPrefix, ∀ name ∈ page, ∃ loaded,
        plugin.load jsonLoads secrets name = .ok loaded ∧ ∀ entry ∈ loaded,
          IsStrings entry.2 ∧ ∀ field ∈ pemFields, field ∈ (members entry.2).map (·.1) := by
  simp only [load_serves_iff]
  rfl

theorem fetch_of_legible (legible : plugin.Legible jsonLoads secrets) :
    ∃ payload, plugin.fetch jsonLoads secrets = .ok payload ∧
      plugin.ServesLeaves escape str json jsonLoads secrets payload := by
  have shaped (entry : String × Value) (fields : IsStrings entry.2 ∧
      ∀ field ∈ pemFields, field ∈ (members entry.2).map (·.1)) : IsStrings entry.2 :=
    fields.1
  obtain ⟨payload, collected, serves⟩ := Collect.collects_of_serves load_functional shaped
    (legible_iff_loads.mp legible)
  exact ⟨payload, collected, servesLeaves_iff.mpr serves⟩

theorem legible_of_fetch {earlier : SecretsManager}
    (fetched : plugin.fetch jsonLoads secrets = .ok payload)
    (serves : plugin.ServesLeaves escape str json jsonLoads earlier payload) :
    plugin.Legible jsonLoads secrets :=
  legible_iff_loads.mpr (Collect.loads_of_serves load_functional fetched
    (servesLeaves_iff.mp serves).2.2)

end SecretsContextPlugin

/-! ## Both plugins -/

/-- In a run of calls, each with whatever contents it finds, a plugin answers every call with all
objects that were present and well formed when it looked last, which the templates render, exactly
when every call that fetches finds every object legible. -/
theorem contexts_served_iff (j : Jinja Obj) (safeLoad : Bytes → Except Exn Obj)
    (artifacts : S3ContextPlugin) (artifactCalls : List (Bucket Bytes × ℚ))
    (escape : Char → Yaml.Line) (str : Value → Option String) (json : Value → String)
    (jsonLoads : String → Except Exn Value) (leaves : SecretsContextPlugin)
    (leafCalls : List (SecretsManager × ℚ)) :
    (Machine.Along (Called.step (artifacts.call safeLoad))
        (Called.Answers (artifacts.call safeLoad) artifacts.refreshInterval
          (artifacts.ServesArtifacts j safeLoad)) {} artifactCalls ↔
      Machine.Along (Called.step (artifacts.call safeLoad))
        (fun s now => fresh artifacts.refreshInterval s.cache now.2 = none →
          artifacts.Legible j safeLoad now.1) {} artifactCalls) ∧
    (Machine.Along (Called.step (leaves.call jsonLoads))
        (Called.Answers (leaves.call jsonLoads) leaves.refreshInterval
          (leaves.ServesLeaves escape str json jsonLoads)) {} leafCalls ↔
      Machine.Along (Called.step (leaves.call jsonLoads))
        (fun s now => fresh leaves.refreshInterval s.cache now.2 = none →
          leaves.Legible jsonLoads now.1) {} leafCalls) :=
  ⟨Called.answers_along_iff (fun _ => S3ContextPlugin.fetch_of_legible)
      (fun _ _ _ => S3ContextPlugin.legible_of_fetch) artifactCalls,
    Called.answers_along_iff (fun _ => SecretsContextPlugin.fetch_of_legible)
      (fun _ _ _ => SecretsContextPlugin.legible_of_fetch) leafCalls⟩

def deprovisioned : Bucket String where
  listObjects := fun _ => [["envoy-resources/a.yaml"]]
  getObject := fun _ => .error (.clientError "NoSuchKey")

theorem contexts_not_always_served :
    ¬∀ (escape : Char → Yaml.Line) (str json : Value → Option String)
      (safeLoad : String → Except Exn Value) (calls : List (Bucket String × ℚ)),
      Machine.Along (Called.step (S3ContextPlugin.call {} safeLoad))
        (Called.Answers (S3ContextPlugin.call {} safeLoad) 30
          (S3ContextPlugin.ServesArtifacts {} (valueJinja escape str json) safeLoad)) {} calls := by
  intro always
  obtain ⟨⟨payload, answered, -⟩, -⟩ := always (fun c => [c]) (fun _ => none) (fun _ => none)
    (fun s => .ok (.str s)) [(deprovisioned, 0)]
  have raised : (S3ContextPlugin.call {} (fun s => .ok (Value.str s)) deprovisioned none 0).1 =
      .error (.clientError "NoSuchKey") := rfl
  rw [raised] at answered
  cases answered

end Regnant.Sovereign
