import Regnant.Proof.Names
import Regnant.Proof.Templates.Json

/-!
# The names that the templates serve

A name is pasted into its line of YAML without quotes. The names of all artifacts are served as they
were rendered exactly when every instance id, continued by a hyphen and a word, is a plain scalar.
-/

namespace Regnant.Sovereign
open Osb
open scoped Yaml

def nameNode (resource : Value) : Option (Yaml.Node Value) :=
  match (members resource).lookup "name" with
  | some (.str s) => some (.scalar s.toList)
  | _ => none

/-- The output of a template is a list of the resources of the artifacts, in order and under their
names. -/
def ServesNames (j : Jinja Value) (flow : Yaml.Line → Option Value) (template : Template)
    (documents : List Value) : Prop :=
  ∃ text maps, template.render j documents = some text ∧
    Yaml.parse flow text.toList = some maps ∧
    maps.map (·.get Yaml.nameKey) = (documents.flatMap (resources template)).map nameNode

/-- The id begins a plain scalar: no line breaks and control characters, no blank or indicator at
the start, no colon before a blank, no number sign after one. -/
def PlainId (id : String) : Prop :=
  Yaml.PlainSafe (clusterName id).toList
  deriving Decidable

def Template.name : Template → String → String
  | .clusters => clusterName
  | .routes => routeName
  | .listeners => listenerName

variable {escape : Char → Yaml.Line} {str json : Value → Option String}
  {flow : Yaml.Line → Option Value} {id : String}

theorem Template.name_suffix (template : Template) :
    ∃ word : Yaml.Line, Yaml.IsWord word ∧
      ∀ id, (template.name id).toList = id.toList ++ '-' :: word := by
  cases template with
  | clusters =>
      exact ⟨"cluster".toList, ⟨by decide, by decide⟩, fun id => by simp [name, clusterName]⟩
  | routes => exact ⟨"route".toList, ⟨by decide, by decide⟩, fun id => by simp [name, routeName]⟩
  | listeners =>
      exact ⟨"listener".toList, ⟨by decide, by decide⟩, fun id => by simp [name, listenerName]⟩

theorem plainSafe_name (template : Template) (id : String) :
    Yaml.PlainSafe (template.name id).toList ↔ PlainId id := by
  obtain ⟨word, isWord, suffix⟩ := template.name_suffix
  obtain ⟨word', isWord', suffix'⟩ := Template.name_suffix .clusters
  show _ ↔ Yaml.PlainSafe (Template.clusters.name id).toList
  rw [suffix, suffix']
  exact Yaml.plainSafe_suffix isWord isWord' id.toList

theorem EscapesMarks.countP (escapes : EscapesMarks escape) {p : Char → Bool}
    (unmarked : ∀ c ∈ marks, p c = false) (words : ∀ c ∈ marks, ∀ d ∈ escape c, p d = false)
    (x : Yaml.Line) : (x.flatMap escape).countP p = x.countP p := by
  induction x with
  | nil => rfl
  | cons c x ih =>
      rw [List.flatMap_cons, List.countP_append, ih]
      by_cases marked : c ∈ marks
      · have none : (escape c).countP p = 0 :=
          List.countP_eq_zero.mpr fun d member => by simp [words c marked d member]
        rw [none, Nat.zero_add, List.countP_cons_of_neg (by simp [unmarked c marked])]
      · rw [escapes.others c marked, ← List.countP_append, List.singleton_append]

theorem EscapesMarks.unescaped (escapes : EscapesMarks escape) {x : Yaml.Line}
    (unmarked : ∀ c ∈ x, c ∉ marks) : x.flatMap escape = x := by
  induction x with
  | nil => rfl
  | cons c x ih =>
      obtain ⟨here, rest⟩ := List.forall_mem_cons.mp unmarked
      rw [List.flatMap_cons, escapes.others c here, ih rest, List.singleton_append]

theorem EscapesMarks.name (escapes : EscapesMarks escape) (template : Template) (id : String) :
    ∃ word : Yaml.Line, Yaml.IsWord word ∧ (template.name id).toList = id.toList ++ '-' :: word ∧
      (template.name id).toList.flatMap escape = id.toList.flatMap escape ++ '-' :: word := by
  obtain ⟨word, isWord, suffix⟩ := template.name_suffix
  have unmarked : ∀ c ∈ '-' :: word, c ∉ marks := by
    have none : ∀ d ∈ marks, d ≠ '-' ∧ Yaml.isWordChar d = false := by decide
    intro c member marked
    rcases List.mem_cons.mp member with rfl | member
    · exact (none '-' marked).1 rfl
    · have other := (none c marked).2
      rw [isWord.chars c member] at other
      cases other
  exact ⟨word, isWord, suffix id, by rw [suffix, List.flatMap_append, escapes.unescaped unmarked]⟩

theorem EscapesMarks.name_iff (escapes : EscapesMarks escape) (template : Template) (id : String) :
    (template.name id).toList.flatMap escape = (template.name id).toList ↔
      Unescaped escape id := by
  obtain ⟨word, -, suffix, printed⟩ := escapes.name template id
  rw [printed, suffix, List.append_left_inj]
  rfl

section Put
variable {items : List (String × Value)} {name : String}

theorem put_str (text : String) (found : items.lookup name = some (.str text)) (value : String) :
    (valueJinja escape str json).putDefault (.dict items) name value =
      some (String.ofList (text.toList.flatMap escape)) := by
  simp [Jinja.putDefault, valueJinja, found]

theorem put_word (escapes : EscapesMarks escape) (text : String)
    (found : items.lookup name = some (.str text)) (unmarked : text.toList.Forall (· ∉ marks))
    (value : String) :
    (valueJinja escape str json).putDefault (.dict items) name value = some text := by
  rw [put_str text found, escapes.unescaped (List.forall_iff_forall_mem.mp unmarked),
    String.ofList_toList]

theorem put_json (v : Value) (found : items.lookup name = some v) :
    (valueJinja escape str json).putJson (.dict items) name = json v := by
  simp [Jinja.putJson, valueJinja, found]

end Put

inductive Shape (id : String) : Template → Value → Prop where
  | cluster (load : List (String × Value)) (check : Value) (checks : List Value) :
      Shape id .clusters (.dict [
        ("name", .str (clusterName id)),
        ("connect_timeout", .str "2s"),
        ("type", .str "STRICT_DNS"),
        ("lb_policy", .str "ROUND_ROBIN"),
        ("transport_socket_matches", transportSocketMatches),
        ("load_assignment", .dict load),
        ("health_checks", .list (check :: checks))])
  | route (hosts : List Value) :
      Shape id .routes (.dict [
        ("name", .str (routeName id)),
        ("virtual_hosts", .list hosts)])
  | listener (address : List (String × Value)) (chains : List Value) :
      Shape id .listeners (.dict [
        ("name", .str (listenerName id)),
        ("address", .dict address),
        ("filter_chains", .list chains)])

theorem rendered_shape {service plan : String} {parameters : Dict} {document : Value}
    (rendered : renderResources id service plan parameters = .ok document) (template : Template) :
    ∃ r, (members document).lookup template.key = some (.list [r]) ∧ Shape id template r ∧
      document = .dict (members document) := by
  simp only [renderResources] at rendered
  cases port : ((parameters.lookup "listen_port").getD (.int 10000)).toInt with
  | error e => simp [port, bind, Except.bind] at rendered
  | ok n =>
      simp only [port, bind, Except.bind, pure, Except.pure] at rendered
      repeat' split at rendered
      all_goals cases rendered
      all_goals cases template
      all_goals first
        | exact ⟨_, rfl, .cluster _ _ _, rfl⟩
        | exact ⟨_, rfl, .route _, rfl⟩
        | exact ⟨_, rfl, .listener _ _, rfl⟩

theorem shape_name {template : Template} {r : Value} (shape : Shape id template r) :
    nameNode r = some (.scalar (template.name id).toList) := by
  cases shape <;> rfl

theorem shape_members {template : Template} {r : Value} (shape : Shape id template r) :
    ∃ fields, r = .dict (("name", .str (template.name id)) :: fields) ∧
      ∀ field ∈ fields, field.1 ≠ "name" := by
  cases shape with
  | cluster => exact ⟨_, rfl, by simp⟩
  | route => exact ⟨_, rfl, by simp⟩
  | listener => exact ⟨_, rfl, by simp⟩

/-! ## The lines of a resource -/

def Carries (node : Yaml.Node Value) (v : Value) : Prop :=
  match node with
  | .scalar t => v = .str (String.ofList t)
  | .flow w => isCollection v = true ∧ Same w v

def written (r : Value) : List (String × Value) :=
  (members r).filter fun m => m.1 ≠ "name" ∧ m.1 ≠ "transport_socket_matches"

theorem mem_written {r : Value} {m : String × Value} :
    m ∈ written r ↔ m ∈ members r ∧ m.1 ≠ "name" ∧ m.1 ≠ "transport_socket_matches" := by
  rw [written, List.mem_filter, decide_eq_true_eq]

structure FieldLine (json : Value → Option String) (flow : Yaml.Line → Option Value)
    (m : String × Value) (l : Yaml.Line × Yaml.Line × Option (Yaml.Node Value)) : Prop where
  line : Yaml.LineReads flow .next l.1 l.2.1 l.2.2
  key : l.2.1 = m.1.toList
  readable : l.2.2.isSome = true ↔ (isCollection m.2 = true → Readable json flow m.2)
  kept : (∃ node, l.2.2 = some node ∧ Carries node m.2) ↔
    (isCollection m.2 = true → Kept json flow m.2)

structure Writes (escape : Char → Yaml.Line) (str json : Value → Option String)
    (template : Template) (id : String) (r : Value) (b : Yaml.Block flow) : Prop where
  lines : ∃ lines, template.resourceLines (valueJinja escape str json) r = some lines ∧
    lines.map String.toList = b.lines
  type : b.type.1 = "@type".toList
  name : b.name = (template.name id).toList
  printed : b.written = (template.name id).toList.flatMap escape
  fields : List.Forall₂ (FieldLine json flow) (written r) b.rest

theorem json_line (writes : WritesLines json) {key text : String} {v : Value}
    (word : Yaml.IsWord key.toList) (other : key.toList ≠ Yaml.nameKey)
    (collection : isCollection v = true) (found : json v = some text) :
    FieldLine json flow (key, v) (Yaml.entryLine key.toList text.toList, key.toList,
      (flow text.toList).map .flow) where
  line := Yaml.lineReads_flow word other (writes.chars v text found)
    (writes.bracket v text collection found)
  key := rfl
  readable := by
    simp only [collection, true_implies, Readable, found, Option.some.injEq, Option.isSome_map,
      Option.isSome_iff_exists]
    exact ⟨fun ⟨w, read⟩ => ⟨text, w, rfl, read⟩, fun ⟨_, w, same, read⟩ => ⟨w, same ▸ read⟩⟩
  kept := by
    simp only [collection, true_implies, Kept, found, Option.some.injEq, Option.map_eq_some_iff]
    constructor
    · rintro ⟨_, ⟨w, read, rfl⟩, -, same⟩
      exact ⟨text, w, rfl, read, same⟩
    · rintro ⟨_, w, rfl, read, same⟩
      exact ⟨.flow w, ⟨w, read, rfl⟩, collection, same⟩

theorem scalar_line (line : String) {key text : String}
    (reads : Yaml.LineReads flow .next line.toList key.toList (some (.scalar text.toList))) :
    FieldLine json flow (key, .str text)
      (line.toList, key.toList, some (.scalar text.toList)) where
  line := reads
  key := rfl
  readable := by simp [isCollection]
  kept := by simp [isCollection, Carries]

theorem fields_line {fields : List (String × Value)}
    {rest : List (Yaml.Line × Yaml.Line × Option (Yaml.Node Value))}
    (all : List.Forall₂ (FieldLine json flow) fields rest) :
    ∀ l ∈ rest, Yaml.LineReads flow .next l.1 l.2.1 l.2.2 := by
  induction all with
  | nil => simp
  | cons here _ ih => exact List.forall_mem_cons.mpr ⟨here.line, ih⟩

theorem writes_of {template : Template} {r : Value} (first type : String) (lines : List String)
    {rest : List (Yaml.Line × Yaml.Line × Option (Yaml.Node Value))}
    (escapes : EscapesMarks escape)
    (opens : Yaml.LineReads flow .first first.toList "@type".toList (some (.scalar type.toList)))
    (rendered : template.resourceLines (valueJinja escape str json) r =
      some (first :: ("  name: " ++ String.ofList ((template.name id).toList.flatMap escape)) ::
        lines))
    (same : lines.map String.toList = rest.map (·.1))
    (fields : List.Forall₂ (FieldLine json flow) (written r) rest) :
    ∃ b : Yaml.Block flow, Writes escape str json template id r b := by
  obtain ⟨word, isWord, -, printed⟩ := escapes.name template id
  have dark : ∀ c ∈ marks, Yaml.isWhite c = false ∧ Yaml.isBreak c = false := by decide
  let b : Yaml.Block flow := {
    first := first.toList
    type := ("@type".toList, .scalar type.toList)
    opens := opens
    name := (template.name id).toList
    written := (template.name id).toList.flatMap escape
    whites := escapes.countP (fun c marked => (dark c marked).1)
      (fun c marked d member => (escapes.words c marked d member).1) _
    breaks := escapes.countP (fun c marked => (dark c marked).2)
      (fun c marked d member => (escapes.words c marked d member).2) _
    ends := by
      rw [printed, List.getLast?_append_cons]
      intro last
      rcases List.mem_cons.mp (List.mem_of_getLast? last) with same | member
      · cases same
      · exact absurd (isWord.chars _ member) (by decide)
    rest := rest
    others := fields_line fields }
  refine ⟨b, ⟨⟨_, rendered, ?_⟩, rfl, rfl, rfl, fields⟩⟩
  simp [b, Yaml.Block.lines, Yaml.entryLine, Yaml.nameKey, same]

theorem writes_cluster {load : List (String × Value)} {check : Value} {checks : List Value}
    (escapes : EscapesMarks escape) (writes : WritesLines json) {loadText checksText : String}
    (loadFound : json (.dict load) = some loadText)
    (checksFound : json (.list (check :: checks)) = some checksText) :
    ∃ b : Yaml.Block flow, Writes escape str json .clusters id (.dict [
      ("name", .str (clusterName id)), ("connect_timeout", .str "2s"), ("type", .str "STRICT_DNS"),
      ("lb_policy", .str "ROUND_ROBIN"), ("transport_socket_matches", transportSocketMatches),
      ("load_assignment", .dict load), ("health_checks", .list (check :: checks))]) b := by
  refine writes_of "- \"@type\": type.googleapis.com/envoy.config.cluster.v3.Cluster"
    "type.googleapis.com/envoy.config.cluster.v3.Cluster"
    ["  connect_timeout: 2s", "  type: STRICT_DNS", "  lb_policy: ROUND_ROBIN",
      "  load_assignment: " ++ loadText, "  health_checks: " ++ checksText]
    escapes ⟨by decide, by decide, rfl, show "@type".toList ≠ _ by decide⟩ ?_ ?_
    (.cons (scalar_line "  connect_timeout: 2s"
      ⟨by decide, by decide, rfl, show "connect_timeout".toList ≠ _ by decide⟩)
    (.cons (scalar_line "  type: STRICT_DNS"
      ⟨by decide, by decide, rfl, show "type".toList ≠ _ by decide⟩)
    (.cons (scalar_line "  lb_policy: ROUND_ROBIN"
      ⟨by decide, by decide, rfl, show "lb_policy".toList ≠ _ by decide⟩)
    (.cons (json_line writes ⟨by decide, by decide⟩ (by decide) rfl loadFound)
    (.cons (json_line writes ⟨by decide, by decide⟩ (by decide) rfl checksFound) .nil)))))
  · simp only [Template.resourceLines, Jinja.clusterLines, Jinja.put]
    rw [put_str (clusterName id) rfl, put_word escapes "2s" rfl (by decide),
      put_word escapes "STRICT_DNS" rfl (by decide), put_word escapes "ROUND_ROBIN" rfl (by decide),
      put_json (.dict load) rfl, put_json (.list (check :: checks)) rfl, loadFound, checksFound]
    rfl
  · simp [Yaml.entryLine]

theorem writes_route {hosts : List Value} (escapes : EscapesMarks escape)
    (writes : WritesLines json) {text : String} (found : json (.list hosts) = some text) :
    ∃ b : Yaml.Block flow, Writes escape str json .routes id (.dict [
      ("name", .str (routeName id)), ("virtual_hosts", .list hosts)]) b := by
  refine writes_of "- \"@type\": type.googleapis.com/envoy.config.route.v3.RouteConfiguration"
    "type.googleapis.com/envoy.config.route.v3.RouteConfiguration" ["  virtual_hosts: " ++ text]
    escapes ⟨by decide, by decide, rfl, show "@type".toList ≠ _ by decide⟩ ?_ ?_
    (.cons (json_line writes ⟨by decide, by decide⟩ (by decide) rfl found) .nil)
  · simp only [Template.resourceLines, Jinja.routeLines, Jinja.put]
    rw [put_str (routeName id) rfl, put_json (.list hosts) rfl, found]
    rfl
  · simp [Yaml.entryLine]

theorem writes_listener {address : List (String × Value)} {chains : List Value}
    (escapes : EscapesMarks escape) (writes : WritesLines json) {addressText chainsText : String}
    (addressFound : json (.dict address) = some addressText)
    (chainsFound : json (.list chains) = some chainsText) :
    ∃ b : Yaml.Block flow, Writes escape str json .listeners id (.dict [
      ("name", .str (listenerName id)), ("address", .dict address),
      ("filter_chains", .list chains)]) b := by
  refine writes_of "- \"@type\": type.googleapis.com/envoy.config.listener.v3.Listener"
    "type.googleapis.com/envoy.config.listener.v3.Listener"
    ["  address: " ++ addressText, "  filter_chains: " ++ chainsText]
    escapes ⟨by decide, by decide, rfl, show "@type".toList ≠ _ by decide⟩ ?_ ?_
    (.cons (json_line writes ⟨by decide, by decide⟩ (by decide) rfl addressFound)
    (.cons (json_line writes ⟨by decide, by decide⟩ (by decide) rfl chainsFound) .nil))
  · simp only [Template.resourceLines, Jinja.listenerLines, Jinja.put]
    rw [put_str (listenerName id) rfl, put_json (.dict address) rfl, put_json (.list chains) rfl,
      addressFound, chainsFound]
    rfl
  · simp [Yaml.entryLine]

theorem texts_of_lines {template : Template} {r : Value} (shape : Shape id template r)
    (rendered : (template.resourceLines (valueJinja escape str json) r).isSome = true) :
    Collections (fun v => (json v).isSome = true) r := by
  cases shape with
  | cluster load check checks =>
      simp only [Template.resourceLines, Jinja.clusterLines, Jinja.put] at rendered
      rw [put_str (clusterName id) rfl, put_str "2s" rfl, put_str "STRICT_DNS" rfl,
        put_str "ROUND_ROBIN" rfl, put_json (.dict load) rfl,
        put_json (.list (check :: checks)) rfl] at rendered
      cases loadFound : json (.dict load) with
      | none => simp [loadFound] at rendered
      | some loadText =>
          cases checksFound : json (.list (check :: checks)) with
          | none =>
              simp only [loadFound, checksFound, Option.bind_eq_bind, Option.bind_some,
                Option.map_none] at rendered
              cases rendered
          | some checksText => simp [Collections, members, isCollection, loadFound, checksFound]
  | route hosts =>
      simp only [Template.resourceLines, Jinja.routeLines, Jinja.put] at rendered
      rw [put_str (routeName id) rfl, put_json (.list hosts) rfl] at rendered
      cases found : json (.list hosts) with
      | none => simp [found] at rendered
      | some text => simp [Collections, members, isCollection, found]
  | listener address chains =>
      simp only [Template.resourceLines, Jinja.listenerLines, Jinja.put] at rendered
      rw [put_str (listenerName id) rfl, put_json (.dict address) rfl,
        put_json (.list chains) rfl] at rendered
      cases addressFound : json (.dict address) with
      | none => simp [addressFound] at rendered
      | some addressText =>
          cases chainsFound : json (.list chains) with
          | none => simp [addressFound, chainsFound] at rendered
          | some chainsText => simp [Collections, members, isCollection, addressFound, chainsFound]

theorem writes_shape {template : Template} {r : Value} (shape : Shape id template r)
    (escapes : EscapesMarks escape) (writes : WritesLines json)
    (texts : Collections (fun v => (json v).isSome = true) r) :
    ∃ b : Yaml.Block flow, Writes escape str json template id r b := by
  cases shape with
  | cluster load check checks =>
      obtain ⟨loadText, loadFound⟩ := Option.isSome_iff_exists.mp
        (texts ("load_assignment", .dict load) (by simp [members]) (by simp) rfl)
      obtain ⟨checksText, checksFound⟩ := Option.isSome_iff_exists.mp
        (texts ("health_checks", .list (check :: checks)) (by simp [members]) (by simp) rfl)
      exact writes_cluster escapes writes loadFound checksFound
  | route hosts =>
      obtain ⟨text, found⟩ := Option.isSome_iff_exists.mp
        (texts ("virtual_hosts", .list hosts) (by simp [members]) (by simp) rfl)
      exact writes_route escapes writes found
  | listener address chains =>
      obtain ⟨addressText, addressFound⟩ := Option.isSome_iff_exists.mp
        (texts ("address", .dict address) (by simp [members]) (by simp) rfl)
      obtain ⟨chainsText, chainsFound⟩ := Option.isSome_iff_exists.mp
        (texts ("filter_chains", .list chains) (by simp [members]) (by simp) rfl)
      exact writes_listener escapes writes addressFound chainsFound

/-! ## What is read of a block -/

theorem collections_iff {template : Template} {r : Value} (shape : Shape id template r)
    {p : Value → Prop} :
    Collections p r ↔ ∀ m ∈ written r, isCollection m.2 = true → p m.2 := by
  obtain ⟨fields, rfl, others⟩ := shape_members shape
  constructor
  · intro all m member
    obtain ⟨member, -, kept⟩ := mem_written.mp member
    exact all m member kept
  · intro all m member kept collection
    refine all m (mem_written.mpr ⟨member, ?_, kept⟩) collection
    rcases List.mem_cons.mp member with rfl | member
    · cases collection
    · exact others m member

theorem Writes.readable_iff {template : Template} {r : Value} {b : Yaml.Block flow}
    (shape : Shape id template r) (writes : Writes escape str json template id r b) :
    b.fields.isSome = true ↔ Collections (Readable json flow) r := by
  rw [collections_iff shape, Yaml.Block.fields_isSome]
  have fields := writes.fields
  generalize written r = members, b.rest = rest at fields ⊢
  induction fields with
  | nil => simp
  | cons here _ ih =>
      rw [List.forall_mem_cons, List.forall_mem_cons, here.readable]
      exact and_congr_right' ih

theorem Writes.clear_iff {template : Template} {r : Value} {b : Yaml.Block flow}
    (shape : Shape id template r) (escapes : EscapesMarks escape)
    (writes : Writes escape str json template id r b) :
    b.Clear ↔ PlainId id ∧ Unescaped escape id ∧ Collections (Readable json flow) r := by
  rw [← plainSafe_name template, ← escapes.name_iff template, ← writes.readable_iff shape,
    ← writes.printed, ← writes.name]
  exact ⟨fun ⟨written, plain, fields⟩ => ⟨plain, written, fields⟩,
    fun ⟨plain, written, fields⟩ => ⟨written, plain, fields⟩⟩

/-! ## The text of the artifacts -/

structure ArtifactBlock (escape : Char → Yaml.Line) (str json : Value → Option String)
    (template : Template) (a : Artifact) (b : Yaml.Block flow) : Prop where
  lines : ∃ lines, template.artifactLines (valueJinja escape str json) a.document = some lines ∧
    lines.map String.toList = b.lines
  resource : ∃ r, resources template a.document = [r] ∧ Shape a.instanceId template r ∧
    Writes escape str json template a.instanceId r b

theorem artifact_resource (template : Template) (a : Artifact) :
    ∃ r, resources template a.document = [r] ∧ Shape a.instanceId template r ∧
      ∀ (escape : Char → Yaml.Line) (str json : Value → Option String),
        template.artifactLines (valueJinja escape str json) a.document =
          template.resourceLines (valueJinja escape str json) r := by
  obtain ⟨r, found, shape, whole⟩ := rendered_shape a.rendered template
  refine ⟨r, ?_, shape, fun escape str json => ?_⟩
  · rw [whole]
    simp [resources, Value.select, found]
  · have get : (valueJinja escape str json).get a.document =
        some fun key => (members a.document).lookup key := by
      rw [whole]
      rfl
    have all : (valueJinja escape str json).iter (.list [r]) = some [r] := rfl
    simp only [Template.artifactLines, get, Option.bind_eq_bind, Option.bind_some, found, all]
    cases lines : template.resourceLines (valueJinja escape str json) r <;> simp [lines]

theorem artifact_blocks {template : Template} {artifacts : List Artifact}
    (escapes : EscapesMarks escape) (writes : WritesLines json)
    (rendered : ∀ a ∈ artifacts,
      (template.artifactLines (valueJinja escape str json) a.document).isSome = true) :
    ∃ blocks : List (Yaml.Block flow),
      List.Forall₂ (ArtifactBlock escape str json template) artifacts blocks := by
  induction artifacts with
  | nil => exact ⟨[], .nil⟩
  | cons a artifacts ih =>
      obtain ⟨here, others⟩ := List.forall_mem_cons.mp rendered
      obtain ⟨blocks, all⟩ := ih others
      obtain ⟨r, only, shape, same⟩ := artifact_resource template a
      rw [same] at here
      obtain ⟨b, written⟩ : ∃ b : Yaml.Block flow,
          Writes escape str json template a.instanceId r b :=
        writes_shape shape escapes writes (texts_of_lines shape here)
      exact ⟨b :: blocks, .cons ⟨same escape str json ▸ written.lines, r, only, shape, written⟩ all⟩

theorem toList_output (ls : List String) :
    (output ls).toList = (ls.map String.toList).flatMap ('\n' :: ·) := by
  induction ls with
  | nil => rfl
  | cons l ls ih =>
      have step : output (l :: ls) = "\n" ++ l ++ output ls := by
        simp [output, String.join_cons]
      rw [step]
      simp [ih]

theorem render_text {template : Template} {artifacts : List Artifact}
    {blocks : List (Yaml.Block flow)}
    (all : List.Forall₂ (ArtifactBlock escape str json template) artifacts blocks) :
    ∃ text, template.render (valueJinja escape str json) (artifacts.map (·.document)) = some text ∧
      text.toList = Yaml.text blocks := by
  have written : ∃ lines,
      (artifacts.map (·.document)).mapM (template.artifactLines (valueJinja escape str json)) =
        some lines ∧ lines.flatten.map String.toList = blocks.flatMap Yaml.Block.lines := by
    induction all with
    | nil => exact ⟨[], rfl, rfl⟩
    | cons block rest ih =>
        obtain ⟨lines, here, same⟩ := block.lines
        obtain ⟨others, there, sames⟩ := ih
        exact ⟨lines :: others, by simp [here, there], by simp [same, sames]⟩
  obtain ⟨lines, written, same⟩ := written
  refine ⟨output lines.flatten, by simp [Template.render, written], ?_⟩
  rw [toList_output, same]
  rfl

theorem lines_of_render {template : Template} {artifacts : List Artifact} {text : String}
    (rendered : template.render (valueJinja escape str json) (artifacts.map (·.document)) =
      some text) :
    ∀ a ∈ artifacts,
      (template.artifactLines (valueJinja escape str json) a.document).isSome = true := by
  obtain ⟨lines, all, -⟩ := Option.map_eq_some_iff.mp rendered
  exact fun a member => List.mapM_some_iff_forall.mp ⟨lines, all⟩ _ (List.mem_map_of_mem member)

theorem names_blocks {template : Template} {artifacts : List Artifact}
    {blocks : List (Yaml.Block flow)}
    (all : List.Forall₂ (ArtifactBlock escape str json template) artifacts blocks) :
    ((artifacts.map (·.document)).flatMap (resources template)).map nameNode =
      blocks.map fun b => some (.scalar b.name) := by
  induction all with
  | nil => rfl
  | cons block rest ih =>
      obtain ⟨r, only, shape, writes⟩ := block.resource
      simp [only, shape_name shape, writes.name, ih]

/-- The id needs no quotes and no escapes, and the collections can be read. -/
structure Clear (escape : Char → Yaml.Line) (json : Value → Option String)
    (flow : Yaml.Line → Option Value) (template : Template) (a : Artifact) : Prop where
  plain : PlainId a.instanceId
  unescaped : Unescaped escape a.instanceId
  readable : ∀ r ∈ resources template a.document, Collections (Readable json flow) r

theorem clear_blocks_iff {template : Template} {artifacts : List Artifact}
    {blocks : List (Yaml.Block flow)} (escapes : EscapesMarks escape)
    (all : List.Forall₂ (ArtifactBlock escape str json template) artifacts blocks) :
    (∀ b ∈ blocks, b.Clear) ↔ ∀ a ∈ artifacts, Clear escape json flow template a := by
  induction all with
  | nil => simp
  | cons block rest ih =>
      obtain ⟨r, only, shape, writes⟩ := block.resource
      rw [List.forall_mem_cons, List.forall_mem_cons, writes.clear_iff shape escapes, ih]
      refine and_congr_left' ⟨fun ⟨plain, unescaped, readable⟩ => ⟨plain, unescaped, ?_⟩,
        fun ⟨plain, unescaped, readable⟩ => ⟨plain, unescaped, readable r (by simp [only])⟩⟩
      rwa [only, List.forall_mem_singleton]

theorem Readable.text {v : Value} (readable : Readable json flow v) : (json v).isSome = true := by
  obtain ⟨text, -, found, -⟩ := readable
  rw [found]
  rfl

theorem clear_blocks {template : Template} {artifacts : List Artifact} (str : Value → Option String)
    (escapes : EscapesMarks escape) (writes : WritesLines json)
    (clear : ∀ a ∈ artifacts, Clear escape json flow template a) :
    ∃ blocks : List (Yaml.Block flow),
      List.Forall₂ (ArtifactBlock escape str json template) artifacts blocks := by
  refine artifact_blocks escapes writes fun a among => ?_
  obtain ⟨r, only, shape, same⟩ := artifact_resource template a
  have texts : Collections (fun v => (json v).isSome = true) r := fun m member kept collection =>
    ((clear a among).readable r (by simp [only]) m member kept collection).text
  obtain ⟨b, written⟩ : ∃ b : Yaml.Block flow, Writes escape str json template a.instanceId r b :=
    writes_shape shape escapes writes texts
  obtain ⟨lines, rendered, -⟩ := written.lines
  rw [same, rendered]
  rfl

theorem servesNames_iff_clear {template : Template} {artifacts : List Artifact}
    (escapes : EscapesMarks escape) (writes : WritesLines json) :
    ServesNames (valueJinja escape str json) flow template (artifacts.map (·.document)) ↔
      ∀ a ∈ artifacts, Clear escape json flow template a := by
  have iff {blocks : List (Yaml.Block flow)}
      (all : List.Forall₂ (ArtifactBlock escape str json template) artifacts blocks) :
      ServesNames (valueJinja escape str json) flow template (artifacts.map (·.document)) ↔
        ∀ a ∈ artifacts, Clear escape json flow template a := by
    obtain ⟨text, rendered, same⟩ := render_text all
    rw [← clear_blocks_iff escapes all, ← Yaml.readsNames_iff]
    simp only [ServesNames, rendered, Option.some.injEq, Yaml.ReadsNames, names_blocks all, ← same]
    exact ⟨fun ⟨_, maps, eq, read⟩ => ⟨maps, eq ▸ read⟩,
      fun ⟨maps, read⟩ => ⟨text, maps, rfl, read⟩⟩
  constructor
  · intro served
    have ⟨text, _, rendered, _⟩ := served
    obtain ⟨blocks, all⟩ := artifact_blocks escapes writes (lines_of_render rendered)
    exact (iff all).mp served
  · intro clear
    obtain ⟨blocks, all⟩ := clear_blocks str escapes writes clear
    exact (iff all).mpr clear

/-- The templates serve the resources of the artifacts under their names exactly when the ids need
no quotes and no escapes and YAML reads what JSON is written of the collections. -/
theorem names_served_iff (escape : Char → Yaml.Line) (str json : Value → Option String)
    (flow : Yaml.Line → Option Value) (artifacts : List Artifact) (escapes : EscapesMarks escape)
    (writes : WritesLines json) :
    (∀ template,
        ServesNames (valueJinja escape str json) flow template (artifacts.map (·.document))) ↔
      ∀ a ∈ artifacts, PlainId a.instanceId ∧ Unescaped escape a.instanceId ∧
        ∀ template, ∀ r ∈ resources template a.document, Collections (Readable json flow) r := by
  simp only [servesNames_iff_clear escapes writes]
  constructor
  · intro all a member
    exact ⟨(all .clusters a member).plain, (all .clusters a member).unescaped,
      fun template => (all template a member).readable⟩
  · intro each template a member
    obtain ⟨plain, unescaped, readable⟩ := each a member
    exact ⟨plain, unescaped, readable template⟩

def markupEscape (c : Char) : Yaml.Line :=
  match c with
  | '&' => "&amp;".toList
  | '<' => "&lt;".toList
  | '>' => "&gt;".toList
  | '\x27' => "&#39;".toList
  | '\x22' => "&#34;".toList
  | c => [c]

theorem markupEscape_marks : EscapesMarks markupEscape where
  others c unmarked := by
    simp only [marks, List.mem_cons, List.not_mem_nil, or_false, not_or] at unmarked
    obtain ⟨amp, lt, gt, apos, quot⟩ := unmarked
    unfold markupEscape
    split <;> first | rfl | contradiction
  words := by decide

def collections (a : Artifact) : List Value :=
  ([.clusters, .routes, .listeners].flatMap fun template =>
    ((resources template a.document).flatMap members).map (·.2)).filter isCollection

def plainFlow (a : Artifact) (l : Yaml.Line) : Option Value :=
  ((collections a).map sortKeys).find? fun v => jsonChars v = l

theorem kept_of_distinct {a : Artifact}
    (distinct : ((collections a).map sortKeys).Pairwise fun v w => jsonChars v ≠ jsonChars w)
    (template : Template) :
    ∀ r ∈ resources template a.document, Collections (Kept plainJson (plainFlow a)) r := by
  intro r resource m member _ collection
  have among : m.2 ∈ collections a := by
    rw [collections, List.mem_filter, List.mem_flatMap]
    refine ⟨⟨template, by cases template <;> simp, ?_⟩, collection⟩
    exact List.mem_map_of_mem (List.mem_flatMap.mpr ⟨r, resource, member⟩)
  refine ⟨_, sortKeys m.2, rfl, ?_, sortKeys_sortKeys m.2⟩
  rw [String.toList_ofList]
  exact find_json distinct (List.mem_map_of_mem among)

theorem Kept.readable {v : Value} (kept : Kept json flow v) : Readable json flow v := by
  obtain ⟨text, w, written, read, -⟩ := kept
  exact ⟨text, w, written, read⟩

theorem kept_x (template : Template) : ∀ r ∈ resources template (plainArtifact "x").document,
    Collections (Kept plainJson (plainFlow (plainArtifact "x"))) r :=
  kept_of_distinct (by decide +kernel) template

theorem plain_names_served :
    ServesNames (valueJinja markupEscape plainJson plainJson) (plainFlow (plainArtifact "x"))
      .clusters [(plainArtifact "x").document] :=
  (names_served_iff markupEscape plainJson plainJson (plainFlow (plainArtifact "x"))
    [plainArtifact "x"] markupEscape_marks plainJson_writesLines).mpr
    (List.forall_mem_singleton.mpr ⟨by decide, by decide, fun template r resource m member kept
      collection => (kept_x template r resource m member kept collection).readable⟩) .clusters

theorem names_not_always_served :
    ¬∀ (escape : Char → Yaml.Line) (str json : Value → Option String)
      (flow : Yaml.Line → Option Value) (artifacts : List Artifact),
      EscapesMarks escape → WritesLines json →
      (∀ a ∈ artifacts, Unescaped escape a.instanceId ∧ ∀ template,
        ∀ r ∈ resources template a.document, Collections (Kept json flow) r) →
      (∀ a ∈ artifacts, validInstanceId a.instanceId ∧ '/' ∉ a.instanceId.toList) →
      ∀ template,
        ServesNames (valueJinja escape str json) flow template (artifacts.map (·.document)) := by
  intro always
  have served := always markupEscape plainJson plainJson (plainFlow (plainArtifact "a #b"))
    [plainArtifact "a #b"] markupEscape_marks plainJson_writesLines
    (List.forall_mem_singleton.mpr ⟨by decide, kept_of_distinct (by decide +kernel)⟩)
    (List.forall_mem_singleton.mpr (by decide)) .clusters
  have clear := (servesNames_iff_clear markupEscape_marks plainJson_writesLines).mp served
  have plain := (clear _ (.head _)).plain
  revert plain
  decide

end Regnant.Sovereign
