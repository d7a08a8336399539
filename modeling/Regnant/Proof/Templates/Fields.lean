import Regnant.Proof.Templates.Names

namespace Regnant.Sovereign
open Osb

def CarriesField (m : Yaml.Mapping Value) (field : String × Value) : Prop :=
  ∃ node, m.get field.1.toList = some node ∧ Carries node field.2

def ServesFields (j : Jinja Value) (flow : Yaml.Line → Option Value) (template : Template)
    (fields : String → Prop) (documents : List Value) : Prop :=
  ∃ text maps, template.render j documents = some text ∧
    Yaml.parse flow text.toList = some maps ∧
    List.Forall₂ (fun m r => ∀ field ∈ members r, fields field.1 → CarriesField m field) maps
      (documents.flatMap (resources template))

variable {escape : Char → Yaml.Line} {str json : Value → Option String}
  {flow : Yaml.Line → Option Value} {id : String}

theorem lost_iff {template : Template} {r : Value} (shape : Shape id template r) :
    (∃ field ∈ members r, field.1 = "transport_socket_matches") ↔ template = .clusters := by
  cases shape with
  | cluster => simp [members]
  | route => simp [members]
  | listener => simp [members]

theorem keys_nodup {template : Template} {r : Value} (shape : Shape id template r) :
    ((members r).map (·.1)).Nodup := by
  cases shape with
  | cluster => simp [members]
  | route => simp [members]
  | listener => simp [members]

theorem line_keys {fields : List (String × Value)}
    {rest : List (Yaml.Line × Yaml.Line × Option (Yaml.Node Value))}
    (all : List.Forall₂ (FieldLine json flow) fields rest) :
    rest.map (·.2.1) = fields.map (·.1.toList) := by
  induction all with
  | nil => rfl
  | cons here _ ih => rw [List.map_cons, List.map_cons, here.key, ih]

theorem line_of_field {fields : List (String × Value)}
    {rest : List (Yaml.Line × Yaml.Line × Option (Yaml.Node Value))}
    (all : List.Forall₂ (FieldLine json flow) fields rest) {field : String × Value}
    (member : field ∈ fields) : ∃ l ∈ rest, FieldLine json flow field l := by
  induction all with
  | nil => cases member
  | cons here _ ih =>
      rcases List.mem_cons.mp member with rfl | member
      · exact ⟨_, .head _, here⟩
      · obtain ⟨l, among, line⟩ := ih member
        exact ⟨l, .tail _ among, line⟩

theorem Writes.distinct {template : Template} {r : Value} {b : Yaml.Block flow}
    (shape : Shape id template r) (writes : Writes escape str json template id r b) :
    (b.rest.map (·.2.1)).Nodup := by
  have keys : ((written r).map (·.1)).Nodup :=
    (keys_nodup shape).sublist (List.Sublist.map Prod.fst List.filter_sublist)
  have chars := keys.map (f := String.toList) fun _ _ => String.toList_inj.mp
  rw [List.map_map] at chars
  exact line_keys writes.fields ▸ chars

theorem Writes.lost {template : Template} {r : Value} {b : Yaml.Block flow}
    (writes : Writes escape str json template id r b) (read : b.fields.isSome = true) :
    b.mapping.get "transport_socket_matches".toList = none := by
  refine Yaml.Block.get_none read (by rw [writes.type]; decide) (by decide) fun member => ?_
  rw [line_keys writes.fields] at member
  obtain ⟨field, among, same⟩ := List.mem_map.mp member
  exact (mem_written.mp among).2.2 (String.toList_inj.mp same)

theorem carriesField_iff {template : Template} {r : Value} {b : Yaml.Block flow}
    (shape : Shape id template r) (writes : Writes escape str json template id r b)
    (read : b.fields.isSome = true) {field : String × Value} (member : field ∈ members r) :
    CarriesField b.mapping field ↔ field.1 ≠ "transport_socket_matches" ∧
      (isCollection field.2 = true → Kept json flow field.2) := by
  by_cases lost : field.1 = "transport_socket_matches"
  · refine iff_of_false ?_ fun found => found.1 lost
    rintro ⟨node, found, -⟩
    rw [lost, writes.lost read] at found
    cases found
  by_cases named : field.1 = "name"
  · obtain ⟨fields, rfl, others⟩ := shape_members shape
    obtain rfl : field = ("name", .str (template.name id)) := by
      rcases List.mem_cons.mp member with same | member
      · exact same
      · exact absurd named (others field member)
    obtain ⟨entries, read⟩ := Option.isSome_iff_exists.mp read
    have found : b.mapping.get "name".toList = some (.scalar b.name) := by
      rw [Yaml.Block.mapping, read]
      exact Yaml.get_name read (.scalar b.name)
    refine iff_of_true ⟨_, found, ?_⟩ ⟨lost, by simp [isCollection]⟩
    simp [Carries, writes.name]
  · obtain ⟨l, among, line⟩ := line_of_field writes.fields (mem_written.mpr ⟨member, named, lost⟩)
    rw [CarriesField, ← line.key, Yaml.Block.get_rest (writes.distinct shape) read among, line.kept]
    exact (and_iff_right lost).symm

theorem complete_iff {template : Template} {r : Value} (shape : Shape id template r)
    {p : Value → Prop} :
    (∀ field ∈ members r, field.1 ≠ "transport_socket_matches" ∧
        (isCollection field.2 = true → p field.2)) ↔
      template ≠ .clusters ∧ Collections p r := by
  rw [Ne, ← lost_iff shape]
  constructor
  · intro all
    exact ⟨fun ⟨field, member, lost⟩ => (all field member).1 lost,
      fun field member _ => (all field member).2⟩
  · intro ⟨complete, kept⟩ field member
    have named : field.1 ≠ "transport_socket_matches" :=
      fun lost => complete ⟨field, member, lost⟩
    exact ⟨named, kept field member named⟩

theorem ServesFields.names {j : Jinja Value} {template : Template} {fields : String → Prop}
    {artifacts : List Artifact} (named : fields "name")
    (served : ServesFields j flow template fields (artifacts.map (·.document))) :
    ServesNames j flow template (artifacts.map (·.document)) := by
  obtain ⟨text, maps, rendered, read, carries⟩ := served
  refine ⟨text, maps, rendered, read, ?_⟩
  clear rendered read
  induction artifacts generalizing maps with
  | nil =>
      cases carries
      rfl
  | cons a artifacts ih =>
      obtain ⟨r, only, shape, -⟩ := artifact_resource template a
      simp only [List.map_cons, List.flatMap_cons, only, List.singleton_append] at carries ⊢
      cases carries with
      | cons here others =>
          obtain ⟨others', whole, -⟩ := shape_members shape
          obtain ⟨node, found, same⟩ := here ("name", _) (by rw [whole]; exact .head _) named
          rw [List.map_cons, ih _ others, shape_name shape]
          congr 1
          cases node with
          | scalar t =>
              have key : Yaml.nameKey = "name".toList := rfl
              have same : template.name _ = String.ofList t := Value.str.inj same
              rw [same, String.toList_ofList, key]
              exact found
          | flow w => exact absurd same.1 (by simp [isCollection])

theorem servesFields_blocks {template : Template} {fields : String → Prop}
    {artifacts : List Artifact} {blocks : List (Yaml.Block flow)} (escapes : EscapesMarks escape)
    (all : List.Forall₂ (ArtifactBlock escape str json template) artifacts blocks)
    (clear : ∀ a ∈ artifacts, Clear escape json flow template a) :
    ServesFields (valueJinja escape str json) flow template fields
        (artifacts.map (·.document)) ↔
      ∀ a ∈ artifacts, ∀ r ∈ resources template a.document, ∀ field ∈ members r, fields field.1 →
        field.1 ≠ "transport_socket_matches" ∧
          (isCollection field.2 = true → Kept json flow field.2) := by
  obtain ⟨text, rendered, same⟩ := render_text all
  have readable := (clear_blocks_iff escapes all).mpr clear
  have read := Yaml.parse_clear readable
  rw [← same] at read
  have served : ServesFields (valueJinja escape str json) flow template fields
      (artifacts.map (·.document)) ↔
      List.Forall₂ (fun (b : Yaml.Block flow) r =>
        ∀ field ∈ members r, fields field.1 → CarriesField b.mapping field) blocks
        ((artifacts.map (·.document)).flatMap (resources template)) := by
    simp only [ServesFields, rendered, Option.some.injEq]
    constructor
    · rintro ⟨_, maps, rfl, read', carries⟩
      rw [read, Option.some.injEq] at read'
      rwa [← read', List.forall₂_map_left_iff] at carries
    · intro carries
      exact ⟨text, _, rfl, read, List.forall₂_map_left_iff.mpr carries⟩
  rw [served]
  clear clear read rendered same served
  induction all with
  | nil => simp
  | cons block _ ih =>
      obtain ⟨r, only, shape, writes⟩ := block.resource
      obtain ⟨here, others⟩ := List.forall_mem_cons.mp readable
      rw [List.forall_mem_cons, only, List.forall_mem_singleton]
      simp only [List.map_cons, List.flatMap_cons, only, List.singleton_append, List.forall₂_cons]
      refine and_congr (forall₂_congr fun field member => imp_congr_right fun _ => ?_) (ih others)
      exact carriesField_iff shape writes here.fields member

theorem Clear.of_kept {template : Template} {a : Artifact} (plain : PlainId a.instanceId)
    (unescaped : Unescaped escape a.instanceId)
    (kept : ∀ r ∈ resources template a.document, Collections (Kept json flow) r) :
    Clear escape json flow template a :=
  ⟨plain, unescaped, fun r resource m member named collection =>
    (kept r resource m member named collection).readable⟩

/-- The templates for routes and listeners serve the whole resources of artifacts whose ids need no
quotes and no escapes and whose collections survive in JSON and YAML; the template for clusters
never does. -/
theorem fields_served_iff (escape : Char → Yaml.Line) (str json : Value → Option String)
    (flow : Yaml.Line → Option Value) (template : Template) (artifacts : List Artifact)
    (escapes : EscapesMarks escape) (writes : WritesLines json) :
    ServesFields (valueJinja escape str json) flow template (fun _ => True)
        (artifacts.map (·.document)) ↔
      ∀ a ∈ artifacts, template ≠ .clusters ∧ PlainId a.instanceId ∧
        Unescaped escape a.instanceId ∧
        ∀ r ∈ resources template a.document, Collections (Kept json flow) r := by
  constructor
  · intro served
    have clear := (servesNames_iff_clear escapes writes).mp (served.names trivial)
    obtain ⟨blocks, all⟩ := clear_blocks str escapes writes clear
    have complete := (servesFields_blocks escapes all clear).mp served
    intro a member
    obtain ⟨r, only, shape, -⟩ := artifact_resource template a
    have here := complete a member r (by simp [only])
    simp only [true_implies] at here
    obtain ⟨kind, kept⟩ := (complete_iff shape).mp here
    refine ⟨kind, (clear a member).plain, (clear a member).unescaped, ?_⟩
    rwa [only, List.forall_mem_singleton]
  · intro each
    have clear : ∀ a ∈ artifacts, Clear escape json flow template a := fun a member =>
      .of_kept (each a member).2.1 (each a member).2.2.1 (each a member).2.2.2
    obtain ⟨blocks, all⟩ := clear_blocks str escapes writes clear
    refine (servesFields_blocks escapes all clear).mpr fun a member r resource => ?_
    obtain ⟨r', only, shape, -⟩ := artifact_resource template a
    obtain ⟨kind, -, -, kept⟩ := each a member
    have here := kept r resource
    rw [only, List.mem_singleton] at resource
    subst resource
    simpa only [true_implies] using (complete_iff shape).mpr ⟨kind, here⟩

theorem plain_fields_served :
    ServesFields (valueJinja markupEscape plainJson plainJson) (plainFlow (plainArtifact "x"))
      .routes (fun _ => True) [(plainArtifact "x").document] :=
  (fields_served_iff markupEscape plainJson plainJson (plainFlow (plainArtifact "x")) .routes
    [plainArtifact "x"] markupEscape_marks plainJson_writesLines).mpr
    (List.forall_mem_singleton.mpr ⟨by decide, by decide, by decide, kept_x .routes⟩)

theorem fields_not_always_served :
    ¬∀ (escape : Char → Yaml.Line) (str json : Value → Option String)
      (flow : Yaml.Line → Option Value) (template : Template) (artifacts : List Artifact),
      EscapesMarks escape → WritesLines json →
      (∀ a ∈ artifacts, PlainId a.instanceId ∧ Unescaped escape a.instanceId ∧
        ∀ r ∈ resources template a.document, Collections (Kept json flow) r) →
      ServesFields (valueJinja escape str json) flow template (fun _ => True)
        (artifacts.map (·.document)) := by
  intro always
  have served := always markupEscape plainJson plainJson (plainFlow (plainArtifact "x")) .clusters
    [plainArtifact "x"] markupEscape_marks plainJson_writesLines
    (List.forall_mem_singleton.mpr ⟨by decide, by decide, kept_x .clusters⟩)
  have clear := (servesNames_iff_clear markupEscape_marks plainJson_writesLines).mp
    (served.names trivial)
  obtain ⟨blocks, all⟩ := clear_blocks plainJson markupEscape_marks plainJson_writesLines clear
  have complete := (servesFields_blocks markupEscape_marks all clear).mp served _ (.head _)
  obtain ⟨r, only, shape, -⟩ := artifact_resource .clusters (plainArtifact "x")
  have here := complete r (by simp [only])
  simp only [true_implies] at here
  exact ((complete_iff shape).mp here).1 rfl

theorem other_fields_served {template : Template} {artifacts : List Artifact}
    (escapes : EscapesMarks escape) (writes : WritesLines json)
    (each : ∀ a ∈ artifacts, PlainId a.instanceId ∧ Unescaped escape a.instanceId ∧
      ∀ r ∈ resources template a.document, Collections (Kept json flow) r) :
    ServesFields (valueJinja escape str json) flow template (· ≠ "transport_socket_matches")
      (artifacts.map (·.document)) := by
  have clear : ∀ a ∈ artifacts, Clear escape json flow template a := fun a member =>
    .of_kept (each a member).1 (each a member).2.1 (each a member).2.2
  obtain ⟨blocks, all⟩ := clear_blocks str escapes writes clear
  exact (servesFields_blocks escapes all clear).mpr fun a member r resource field among named =>
    ⟨named, (each a member).2.2 r resource field among named⟩

end Regnant.Sovereign
