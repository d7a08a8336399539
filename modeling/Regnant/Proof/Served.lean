import Regnant.Proof.Convergence
import Regnant.Proof.Listings
import Regnant.Proof.Templates.Fields

namespace Regnant.Osb

def Broker.Live (s : Broker) (id : String) : Prop :=
  creation (s.accepted id) ≠ none ∧ .deprovisioned ∉ s.accepted id

def Broker.Publishes (settings : Settings) (s : Broker) (id : String) (document : Value) : Prop :=
  ∃ payload ∈ creation (s.accepted id), ∃ item ∈ s.aws.instances id,
    Published settings id (lastService payload (patches (s.accepted id))) item (some document)

def Aws.OnlyArtifacts (settings : Settings) (w : Aws) : Prop :=
  ∀ key document, w.bucket key = some document → ∃ id, key = settings.artifactKey id

variable {settings : Settings} {w w' : Aws} {s : Broker} {id key : String} {document : Value}
  {self receipt : ExecutionName} {now : String} {payload : Payload} {request : Request}
  {response : Response}

theorem Aws.OnlyArtifacts.of_bucket (only : w.OnlyArtifacts settings)
    (same : w'.bucket = w.bucket) : w'.OnlyArtifacts settings :=
  fun key document found => only key document (same ▸ found)

theorem Aws.OnlyArtifacts.update {artifact : Option Value} (only : w.OnlyArtifacts settings)
    (written : w'.bucket = Function.update w.bucket (settings.artifactKey id) artifact) :
    w'.OnlyArtifacts settings := by
  intro key document found
  by_cases own : key = settings.artifactKey id
  · exact ⟨id, own⟩
  · rw [written, Function.update_of_ne own] at found
    exact only key document found

theorem Aws.OnlyArtifacts.answered (only : w.OnlyArtifacts settings)
    (answered : Answered self now w request response w') : w'.OnlyArtifacts settings := by
  cases answered with
  | other quiet same => exact only.of_bucket same.bucket
  | _ => exact only

theorem Aws.OnlyArtifacts.handled (only : w.OnlyArtifacts settings)
    (handled : Handled settings now receipt w payload w') : w'.OnlyArtifacts settings := by
  cases handled with
  | provisioned => exact only.update rfl
  | updated => exact only.update rfl
  | deprovisioned => exact only.update rfl
  | _ => exact only

theorem only_artifacts (settings : Settings) (steps : List Step) :
    (Broker.after settings steps).aws.OnlyArtifacts settings := by
  refine after_invariant (I := fun s => s.aws.OnlyArtifacts settings)
    (fun _ _ found => by cases found) (fun s i s' only _ transition => ?_)
    (.true (Broker.step settings) .init steps)
  cases transition with
  | answered answered => exact only.answered answered
  | @handled _ _ _ rest _ head handled =>
      have only_rest : ({ s.aws with provisionTasks := rest } : Aws).OnlyArtifacts settings := only
      exact only_rest.handled handled
  | bindingHandled same => exact only.of_bucket same.bucket
  | idle => exact only

theorem drained_life (settings : Settings) (steps : List Step)
    (renders : Machine.Along (Broker.step settings) (fun s _ => s.aws.TasksRender) .init steps)
    (fresh : (Broker.after settings steps).created.Nodup)
    (drained : (Broker.after settings steps).aws.provisionTasks = []) (id : String) :
    ((Broker.after settings steps).view settings id).Life settings id ∧
      ((Broker.after settings steps).view settings id).tasks = [] := by
  refine ⟨?_, by simp [Broker.view, Aws.tasksAbout, Aws.payloads, drained]⟩
  refine view_invariant id (I := fun v : View =>
    (v.accepted.filterMap Accepted.creation).length ≤ 1 → v.Life settings id)
    (fun _ => .unused rfl rfl rfl ⟨rfl, rfl⟩ (by simp)) (fun s i v' life renders step once => ?_)
    renders (created_once fresh id)
  have before := (step.accepted_prefix.filterMap Accepted.creation).length_le
  exact life_step (life (before.trans once)) renders step once

theorem Broker.life_publishes (life : (s.view settings id).Life settings id)
    (tasks : (s.view settings id).tasks = [])
    (found : s.aws.bucket (settings.artifactKey id) = some document) :
    s.Live id ∧ s.Publishes settings id document := by
  have artifact : (s.view settings id).artifact = some document := found
  cases life with
  | unused row absent => cases absent.symm.trans artifact
  | @live payload item created kept row complete progress =>
      have once : creation (s.accepted id) = some payload := created
      have live : s.Live id := ⟨by simp [once], kept⟩
      refine ⟨live, payload, created, item, row, ?_⟩
      rw [tasks, artifact] at progress
      cases progress with
      | provisioning waiting => cases waiting
      | updating waiting => simp at waiting
      | published _ published => exact published
  | ending created deleted dead =>
      rw [tasks, artifact] at dead
      simp [newest] at dead

theorem Broker.life_artifact (life : (s.view settings id).Life settings id)
    (tasks : (s.view settings id).tasks = []) (live : s.Live id) :
    ∃ document, s.aws.bucket (settings.artifactKey id) = some document := by
  cases life with
  | unused row artifact waiting accepted => exact absurd accepted.1 live.1
  | live created kept row complete progress =>
      rw [tasks] at progress
      cases progress with
      | provisioning waiting => cases waiting
      | updating waiting => simp at waiting
      | published _ published =>
          obtain ⟨-, -, document, -, -, found, -⟩ := published.artifact
          exact ⟨document, found⟩
  | ending created deleted => exact absurd deleted live.2

theorem Broker.Publishes.artifact (publishes : s.Publishes settings id document) :
    ∃ a : Artifact, a.instanceId = id ∧ a.document = document := by
  obtain ⟨payload, -, item, -, published⟩ := publishes
  obtain ⟨plan, parameters, document', -, -, found, rendered⟩ := published.artifact
  cases found
  exact ⟨⟨id, _, plan, parameters, document, rendered⟩, rfl, rfl⟩

end Regnant.Osb

namespace Regnant.Sovereign
open Osb

variable {Bytes σ : Type} {settings : Osb.Settings} {s : Broker} {payload : Payload Value}
  {safeDump : Value → Bytes} {safeLoad : Bytes → Except Exn Value}
  {escape : Char → Yaml.Line} {str json : Value → Option String} {flow : Yaml.Line → Option Value}

/-- The document can be written and read back, and so can the collections in its resources. -/
structure ReadsDocument (safeDump : Value → Bytes) (safeLoad : Bytes → Except Exn Value)
    (json : Value → Option String) (flow : Yaml.Line → Option Value) (document : Value) :
    Prop where
  loaded : safeLoad (safeDump document) = .ok document
  kept : ∀ template, ∀ r ∈ resources template document, Collections (Kept json flow) r

def ServesInstance (settings : Osb.Settings) (s : Broker) (template : Template) (id : String)
    (m : Yaml.Mapping Value) : Prop :=
  ∃ document r, s.Publishes settings id document ∧ resources template document = [r] ∧
    m.get Yaml.nameKey = some (.scalar (template.name id).toList) ∧
    ∀ field ∈ members r, field.1 ≠ "transport_socket_matches" → CarriesField m field

structure Listed (settings : Osb.Settings) (s : Broker) (payload : Payload Value)
    (artifacts : List Artifact) : Prop where
  documents : artifacts.map (·.document) = payload.map (·.2)
  keys : artifacts.map (settings.artifactKey ·.instanceId) = payload.map (·.1)
  publishes : ∀ a ∈ artifacts, s.Live a.instanceId ∧ s.Publishes settings a.instanceId a.document

theorem listed_artifacts
    (each : ∀ e ∈ payload, ∃ id, e.1 = settings.artifactKey id ∧ s.Live id ∧
      s.Publishes settings id e.2) :
    ∃ artifacts, Listed settings s payload artifacts := by
  induction payload with
  | nil => exact ⟨[], rfl, rfl, by simp⟩
  | cons e payload ih =>
      obtain ⟨⟨id, key, live, publishes⟩, rest⟩ := List.forall_mem_cons.mp each
      obtain ⟨artifacts, listed⟩ := ih rest
      obtain ⟨a, rfl, document⟩ := publishes.artifact
      refine ⟨a :: artifacts, ?_, ?_, List.forall_mem_cons.mpr ⟨⟨live, ?_⟩, listed.publishes⟩⟩
      · rw [List.map_cons, List.map_cons, document, listed.documents]
      · rw [List.map_cons, List.map_cons, key, listed.keys]
      · rwa [document]

theorem Listed.instances {artifacts : List Artifact} (listed : Listed settings s payload artifacts)
    (nodup : (payload.map (·.1)).Nodup)
    (present : ∀ id, s.Live id → settings.artifactKey id ∈ payload.map (·.1)) :
    (artifacts.map (·.instanceId)).Nodup ∧
      ∀ id, id ∈ artifacts.map (·.instanceId) ↔ s.Live id := by
  constructor
  · rw [← listed.keys] at nodup
    exact .of_map settings.artifactKey (by rwa [List.map_map])
  · intro id
    constructor
    · intro member
      obtain ⟨a, inside, rfl⟩ := List.mem_map.mp member
      exact (listed.publishes a inside).1
    · intro live
      have key := present id live
      rw [← listed.keys] at key
      obtain ⟨a, member, same⟩ := List.mem_map.mp key
      exact List.mem_map.mpr ⟨a, member, settings.artifactKey_injective same⟩

theorem Listed.serves {artifacts : List Artifact} (listed : Listed settings s payload artifacts)
    {template : Template} {maps : List (Yaml.Mapping Value)}
    (carries : List.Forall₂ (fun m r => ∀ field ∈ members r,
        field.1 ≠ "transport_socket_matches" → CarriesField m field) maps
      ((artifacts.map (·.document)).flatMap (resources template))) :
    List.Forall₂ (ServesInstance settings s template) (artifacts.map (·.instanceId)) maps := by
  have publishes := listed.publishes
  clear listed
  induction artifacts generalizing maps with
  | nil =>
      cases carries
      exact .nil
  | cons a artifacts ih =>
      obtain ⟨⟨-, here⟩, rest⟩ := List.forall_mem_cons.mp publishes
      obtain ⟨r, only, shape, -⟩ := artifact_resource template a
      simp only [List.map_cons, List.flatMap_cons, only, List.singleton_append] at carries ⊢
      cases carries with
      | @cons m _ _ _ fields others =>
          refine .cons ⟨a.document, r, here, only, ?_, fields⟩ (ih others rest)
          obtain ⟨fields', whole', -⟩ := shape_members shape
          obtain ⟨node, found, same⟩ := fields ("name", .str (template.name a.instanceId))
            (by rw [whole']; exact .head _) (by simp)
          cases node with
          | scalar t =>
              have same : template.name a.instanceId = String.ofList t := Value.str.inj same
              have key : Yaml.nameKey = "name".toList := rfl
              rw [same, String.toList_ofList, key]
              exact found
          | flow w => exact absurd same.1 (by simp [isCollection])

theorem S3ContextPlugin.bucket_collected {plugin : S3ContextPlugin} {b : S3Store Bytes}
    {pages : List (List String)} {n : Nat} {cache : Option (Cache Value)} {now : ℚ} {state : σ}
    (uncached : fresh plugin.refreshInterval cache now = none)
    (listed : b.Lists plugin.keyPrefix pages) (enough : pages.length ≤ n)
    (legible : ∀ key body, plugin.keyPrefix.toList.isPrefixOf key.toList = true →
      b.objects key = some body →
      (∃ artifact, safeLoad body = .ok artifact) ∨ safeLoad body = .error .yamlError) :
    ∃ payload, Refreshes b.answer S3Call.lists plugin.refreshInterval (plugin.reader safeLoad)
        pages.length n cache now state payload ∧ plugin.IsBucket safeLoad b payload := by
  have loads (page) (here : page ∈ pages) (key) (member : key ∈ page) :
      ∃ loaded, S3ContextPlugin.load safeLoad (S3ContextPlugin.reading b pages) key =
        .ok loaded := by
    obtain ⟨under, present⟩ := (listed.listed key).mp (List.mem_flatten.mpr ⟨page, here, member⟩)
    exact S3ContextPlugin.reading_loads legible under present
  obtain ⟨payload, collected⟩ := Collect.collect_ok_iff.mpr loads
  exact ⟨payload, (S3ContextPlugin.refreshes_collect uncached listed.paged enough).mpr collected,
    S3ContextPlugin.isBucket_of_collect listed collected⟩

/-- Whenever the queue is empty, Sovereign collects the artifacts of the instances that were created
and not deprovisioned, and each template serves one resource for each of them, under the name and
with the fields that its row and its last request ask for. -/
theorem live_instances_served (settings : Osb.Settings) (steps : List Step)
    (plugin : S3ContextPlugin) (safeDump : Value → Bytes) (safeLoad : Bytes → Except Exn Value)
    (b : S3Store Bytes) (pages : List (List String)) (n : Nat) (cache : Option (Cache Value))
    (now : ℚ) (state : σ) (escape : Char → Yaml.Line) (str json : Value → Option String)
    (flow : Yaml.Line → Option Value) (escapes : EscapesMarks escape) (writes : WritesLines json)
    (renders : Machine.Along (Broker.step settings) (fun s _ => s.aws.TasksRender) .init steps)
    (fresh : (Broker.after settings steps).created.Nodup)
    (drained : (Broker.after settings steps).aws.provisionTasks = [])
    (same : settings.artifactPrefix = plugin.keyPrefix)
    (stored : ∀ key, b.objects key = ((Broker.after settings steps).aws.bucket key).map safeDump)
    (uncached : Sovereign.fresh plugin.refreshInterval cache now = none)
    (listed : b.Lists plugin.keyPrefix pages) (enough : pages.length ≤ n)
    (legible : ∀ key document, (Broker.after settings steps).aws.bucket key = some document →
      ReadsDocument safeDump safeLoad json flow document)
    (plain : ∀ id, (Broker.after settings steps).Live id → PlainId id ∧ Unescaped escape id) :
    ∃ payload ids, Refreshes b.answer S3Call.lists plugin.refreshInterval (plugin.reader safeLoad)
        pages.length n cache now state payload ∧
      ids.Nodup ∧ (∀ id, id ∈ ids ↔ (Broker.after settings steps).Live id) ∧
      ∀ template : Template, ∃ text maps,
        template.render (valueJinja escape str json) (payload.map (·.2)) = some text ∧
        Yaml.parse flow text.toList = some maps ∧
        List.Forall₂ (ServesInstance settings (Broker.after settings steps) template) ids maps := by
  have life := drained_life settings steps renders fresh drained
  have only := only_artifacts settings steps
  generalize Broker.after settings steps = s at *
  have parses : ∀ key body, plugin.keyPrefix.toList.isPrefixOf key.toList = true →
      b.objects key = some body →
      (∃ artifact, safeLoad body = .ok artifact) ∨ safeLoad body = .error .yamlError := by
    intro key body _ found
    rw [stored, Option.map_eq_some_iff] at found
    obtain ⟨document, found, rfl⟩ := found
    exact .inl ⟨document, (legible key document found).loaded⟩
  obtain ⟨payload, refreshes, isBucket⟩ :=
    S3ContextPlugin.bucket_collected uncached listed enough parses
  -- the payload has the objects of the bucket under their keys
  have entries : ∀ key document, (key, document) ∈ payload ↔
      s.aws.bucket key = some document := by
    intro key document
    rw [isBucket.entries]
    constructor
    · rintro ⟨-, -, body, found, read⟩
      rw [stored, Option.map_eq_some_iff] at found
      obtain ⟨document', found, rfl⟩ := found
      rw [(legible key document' found).loaded] at read
      cases read
      exact found
    · intro found
      obtain ⟨id, rfl⟩ := only key document found
      obtain ⟨under, yaml⟩ := S3ContextPlugin.artifactKey_under same id
      exact ⟨under, yaml, safeDump document, by rw [stored, found]; rfl,
        (legible _ document found).loaded⟩
  have each : ∀ e ∈ payload, ∃ id, e.1 = settings.artifactKey id ∧ s.Live id ∧
      s.Publishes settings id e.2 := by
    intro e member
    have found := (entries e.1 e.2).mp member
    obtain ⟨id, key⟩ := only e.1 e.2 found
    exact ⟨id, key, Broker.life_publishes (life id).1 (life id).2 (key ▸ found)⟩
  obtain ⟨artifacts, listed⟩ := listed_artifacts each
  obtain ⟨nodup, ids⟩ := listed.instances isBucket.keys fun id live => by
    obtain ⟨document, found⟩ := Broker.life_artifact (life id).1 (life id).2 live
    exact List.mem_map.mpr ⟨_, (entries _ document).mpr found, rfl⟩
  have read : ∀ a ∈ artifacts, ReadsDocument safeDump safeLoad json flow a.document := by
    intro a member
    have document := List.mem_map_of_mem (f := (·.document)) member
    rw [listed.documents] at document
    obtain ⟨e, member, same⟩ := List.mem_map.mp document
    exact same ▸ legible e.1 e.2 ((entries e.1 e.2).mp member)
  refine ⟨payload, artifacts.map (·.instanceId), refreshes, nodup, ids, fun template => ?_⟩
  have served : ServesFields (valueJinja escape str json) flow template
      (· ≠ "transport_socket_matches") (artifacts.map (·.document)) :=
    other_fields_served escapes writes fun a member =>
      have id := plain _ (listed.publishes a member).1
      ⟨id.1, id.2, (read a member).kept template⟩
  obtain ⟨text, maps, rendered, parsed, carries⟩ := served
  rw [listed.documents] at rendered
  exact ⟨text, maps, rendered, parsed, listed.serves carries⟩

def oneLife : List Step :=
  [.request (.provision "x" ⟨"s", "p", ∅, ∅⟩ true) 0 "now", .work .provision ⟨"now", "token"⟩]

def oneObject : S3Store Value where
  objects := (Broker.after {} oneLife).aws.bucket
  listObjects _ _ := ⟨some ["envoy-resources/x.yaml"], none, none⟩

theorem oneObject_objects {key : String} {document : Value}
    (found : oneObject.objects key = some document) :
    key = "envoy-resources/x.yaml" ∧ document = (plainArtifact "x").document := by
  obtain ⟨id, rfl⟩ := only_artifacts {} oneLife key document found
  have bucket : oneObject.objects = Function.update (fun _ => none)
    (Osb.Settings.artifactKey {} "x") (some (plainArtifact "x").document) := rfl
  rw [bucket] at found
  by_cases own : id = "x"
  · subst own
    rw [Function.update_self] at found
    exact ⟨by decide, (Option.some.inj found).symm⟩
  · rw [Function.update_of_ne fun same => own (Osb.Settings.artifactKey_injective {} same)] at found
    cases found

theorem oneObject_lists : oneObject.Lists "envoy-resources/" [["envoy-resources/x.yaml"]] where
  paged := .last rfl rfl
  listed key := by
    rw [List.flatten_singleton, List.mem_singleton]
    constructor
    · rintro rfl
      exact ⟨by decide, by decide⟩
    · rintro ⟨-, present⟩
      obtain ⟨document, found⟩ := Option.isSome_iff_exists.mp present
      exact (oneObject_objects found).1

theorem one_instance_served :
    ∃ (payload : Payload Value) (ids : List String) (text : String)
      (maps : List (Yaml.Mapping Value)),
      Template.clusters.render (valueJinja markupEscape plainJson plainJson) (payload.map (·.2)) =
        some text ∧
      Yaml.parse (plainFlow (plainArtifact "x")) text.toList = some maps ∧ "x" ∈ ids ∧
      List.Forall₂ (ServesInstance {} (Broker.after {} oneLife) .clusters) ids maps := by
  have only_x : ∀ id, (Broker.after {} oneLife).Live id → id = "x" := by
    intro id live
    obtain ⟨life, tasks⟩ := drained_life {} oneLife (by decide) (by decide) (by decide) id
    obtain ⟨document, found⟩ := Broker.life_artifact life tasks live
    have key : Osb.Settings.artifactKey {} "x" = "envoy-resources/x.yaml" := by decide
    exact Osb.Settings.artifactKey_injective {} ((oneObject_objects found).1.trans key.symm)
  have legible : ∀ key document, (Broker.after {} oneLife).aws.bucket key = some document →
      ReadsDocument id .ok plainJson (plainFlow (plainArtifact "x")) document := by
    intro key document found
    obtain ⟨-, rfl⟩ := oneObject_objects found
    exact ⟨rfl, kept_x⟩
  obtain ⟨payload, ids, -, -, live, served⟩ := live_instances_served (σ := Unit) {} oneLife {} id
    Except.ok oneObject _ 1 none 0 () markupEscape plainJson plainJson
    (plainFlow (plainArtifact "x")) markupEscape_marks plainJson_writesLines (by decide) (by decide)
    (by decide) rfl (by simp [oneObject]) rfl oneObject_lists (Nat.le_refl 1) legible
    fun id live => by rw [only_x id live]; decide
  obtain ⟨text, maps, rendered, parsed, serves⟩ := served .clusters
  have member : "x" ∈ ids := (live "x").mpr ⟨by decide, by decide⟩
  exact ⟨payload, ids, text, maps, rendered, parsed, member, serves⟩

end Regnant.Sovereign
