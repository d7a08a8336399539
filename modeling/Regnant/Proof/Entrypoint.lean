import Regnant.Envoy.Entrypoint

/-!
# A bootstrap rendered at once

The variables are replaced one after the other, so a value could be taken for the name of a variable
that comes later. When no value of the template has a mark, the order of the environment does not
matter and all holes are filled at once.
-/

namespace Regnant.Envoy
open Replace

variable {hostname name default : String} {env : Environment} {items : Items} {template : Template}
  {defaults : List (String × String)}

def Environment.kept (env : Environment) (name default : String) : String :=
  if (env.lookup name).getD "" = "" then default else (env.lookup name).getD ""

theorem lookup_assigned (env : Environment) (name default : String) :
    (assignDefault env name default).lookup name = some (env.kept name default) := by
  rw [assignDefault, Environment.kept]
  split
  · exact Finmap.lookup_insert _
  · rename_i kept
    cases found : env.lookup name with
    | none => exact absurd (by rw [found]; rfl) kept
    | some value => rfl

theorem lookup_other (env : Environment) (default : String) {name name' : String}
    (other : name' ≠ name) : (assignDefault env name default).lookup name' = env.lookup name' := by
  rw [assignDefault]
  split
  · exact Finmap.lookup_insert_of_ne _ other
  · rfl

theorem lookup_others (env : Environment) (others : name ∉ defaults.map Prod.fst) :
    (defaults.foldl (fun env default => assignDefault env default.1 default.2) env).lookup name =
      env.lookup name := by
  induction defaults generalizing env with
  | nil => rfl
  | cons e defaults ih =>
      rw [List.map_cons, List.mem_cons, not_or] at others
      rw [List.foldl_cons, ih _ others.2, lookup_other _ _ others.1]

theorem lookup_default (env : Environment) (distinct : (defaults.map Prod.fst).Nodup)
    (member : (name, default) ∈ defaults) :
    (defaults.foldl (fun env default => assignDefault env default.1 default.2) env).lookup name =
      some (env.kept name default) := by
  induction defaults generalizing env with
  | nil => cases member
  | cons e defaults ih =>
      rw [List.map_cons, List.nodup_cons] at distinct
      rw [List.foldl_cons]
      rcases List.mem_cons.mp member with rfl | member
      · rw [lookup_others _ distinct.1, lookup_assigned]
      · have other : name ≠ e.1 := by
          rintro rfl
          exact distinct.1 (List.mem_map.mpr ⟨_, member, rfl⟩)
        rw [ih _ distinct.2 member, Environment.kept, lookup_other _ _ other, Environment.kept]

/-! ## Substitution -/

def Environment.Iterates (env : Environment) (items : Items) : Prop :=
  (items : Multiset (Sigma fun _ : String => String)) = env.entries

def Environment.fills (env : Environment) (hole : List Char) : Option (List Char) :=
  (env.lookup (String.ofList hole)).map String.toList

theorem braces_toList (name : String) :
    ("$\x7b" ++ name ++ "\x7d").toList = braced name.toList := by
  simp [braced]

def pairs (items : Items) : List (List Char × List Char) :=
  items.map fun item => (item.1.toList, item.2.toList)

theorem render_eq (items : Items) (data : List Char) :
    render items data =
      (pairs items).foldl (fun data e => replace (braced e.1) e.2 data) data := by
  simp only [render, pairs, List.foldl_map, braces_toList]

theorem mem_pairs (iterates : env.Iterates items) {hole value : List Char} :
    (hole, value) ∈ pairs items ↔ env.fills hole = some value := by
  have member {item : Sigma fun _ : String => String} :
      item ∈ items ↔ env.lookup item.1 = some item.2 := by
    rw [← Multiset.mem_coe, iterates]
    exact Finmap.mem_lookup_iff.symm
  simp only [pairs, List.mem_map, Prod.mk.injEq, Environment.fills, Option.map_eq_some_iff]
  constructor
  · rintro ⟨item, there, rfl, rfl⟩
    exact ⟨item.2, by rw [String.ofList_toList]; exact member.mp there, rfl⟩
  · rintro ⟨text, found, rfl⟩
    exact ⟨⟨String.ofList hole, text⟩, member.mpr found, String.toList_ofList, rfl⟩

theorem render_template (iterates : env.Iterates items)
    (braces : ∀ name ∈ env, '}' ∉ name.toList) (proper : template.Proper)
    (unmarked : ∀ hole, .hole hole ∈ template → ∀ value ∈ env.fills hole, '$' ∉ value) :
    render items (written template) = written (template.map (Piece.fillAll env.fills)) := by
  have braces' (e) (there : e ∈ pairs items) : '}' ∉ e.1 := by
    obtain ⟨value, found, -⟩ := Option.map_eq_some_iff.mp ((mem_pairs iterates).mp there)
    simpa using braces _ (Finmap.mem_of_lookup_eq_some found)
  have given_pairs : given (pairs items) = env.fills := given_eq fun _ _ => mem_pairs iterates
  rw [render_eq, foldl_replace braces' proper ?_, given_pairs]
  exact fun hole there value found => unmarked hole there value ((mem_pairs iterates).mp found)

/-! ## The bootstrap -/

theorem bootstrap_proper : bootstrap.Proper := by
  decide +kernel

theorem distinct_defaults (hostname : String) :
    ((entrypointDefaults hostname).map Prod.fst).Nodup := by
  simp [entrypointDefaults]

theorem hole_default (hostname : String) {hole : List Char} (there : .hole hole ∈ bootstrap) :
    ∃ default, (String.ofList hole, default) ∈ entrypointDefaults hostname := by
  simp [bootstrap] at there
  rcases there with rfl | rfl | rfl | rfl | rfl | rfl | rfl <;> simp [entrypointDefaults]

theorem exported_names (braces : ∀ name ∈ env, '}' ∉ name.toList) :
    ∀ name ∈ entrypointEnvironment hostname env, '}' ∉ name.toList := by
  intro name there
  by_cases defaulted : name ∈ (entrypointDefaults hostname).map Prod.fst
  · have literal : (entrypointDefaults hostname).map Prod.fst =
        (entrypointDefaults "").map Prod.fst := rfl
    rw [literal] at defaulted
    clear there
    revert name
    decide
  · refine braces name (Finmap.lookup_isSome.mp ?_)
    rw [← lookup_others env defaulted]
    exact Finmap.lookup_isSome.mpr there

/-- The bootstrap has the chosen values in all its holes, in whatever order the environment is
iterated and whatever else it has. -/
theorem bootstrap_rendered (iterates : (entrypointEnvironment hostname env).Iterates items)
    (braces : ∀ name ∈ env, '}' ∉ name.toList)
    (unmarked : ∀ e ∈ entrypointDefaults hostname, '$' ∉ (env.kept e.1 e.2).toList) :
    render items (written bootstrap) =
        written (bootstrap.map (Piece.fillAll (entrypointEnvironment hostname env).fills)) ∧
      (∀ e ∈ entrypointDefaults hostname,
        (entrypointEnvironment hostname env).lookup e.1 = some (env.kept e.1 e.2)) ∧
      '$' ∉ render items (written bootstrap) := by
  have exported (e) (there : e ∈ entrypointDefaults hostname) :
      (entrypointEnvironment hostname env).lookup e.1 = some (env.kept e.1 e.2) :=
    lookup_default env (distinct_defaults hostname) there
  have filled (hole) (there : .hole hole ∈ bootstrap) : ∃ text,
      (entrypointEnvironment hostname env).fills hole = some text ∧ '$' ∉ text := by
    obtain ⟨default, member⟩ := hole_default hostname there
    refine ⟨_, ?_, unmarked _ member⟩
    rw [Environment.fills, exported _ member, Option.map_some]
  have rendered := render_template iterates (exported_names braces) bootstrap_proper
    fun hole there value found => by
      obtain ⟨text, found', absent⟩ := filled hole there
      rw [found', Option.mem_some_iff] at found
      exact found ▸ absent
  refine ⟨rendered, exported, ?_⟩
  rw [rendered]
  exact unmarked_written bootstrap_proper filled

def euEnvironment : Environment :=
  (Finmap.singleton "ENVOY_REGION" "eu-west-1").insert "SOVEREIGN_XDS_PORT" ""

def euItems : Items :=
  [⟨"ENVOY_NODE_ID", "envoy-edge"⟩, ⟨"SOVEREIGN_XDS_PORT", "8080"⟩, ⟨"ENVOY_REGION", "eu-west-1"⟩,
    ⟨"OTEL_COLLECTOR_PORT", "4317"⟩, ⟨"OTEL_COLLECTOR_HOST", "otel-collector"⟩,
    ⟨"SOVEREIGN_XDS_HOST", "sovereign"⟩, ⟨"ENVOY_NODE_CLUSTER", "regnant-fleet"⟩]

theorem eu_rendered : '$' ∉ render euItems (written bootstrap) := by
  have iterates : (entrypointEnvironment "edge" euEnvironment).entries = euItems := by
    decide +kernel
  have braces : ∀ name ∈ euEnvironment, '}' ∉ name.toList := by
    simp [euEnvironment, Finmap.mem_insert]
  exact (bootstrap_rendered iterates.symm braces (by decide +kernel)).2.2

/-- A value with a mark is taken for the name of a variable that comes later. -/
example : render [⟨"A", "$\x7bB\x7d"⟩, ⟨"B", "b"⟩] "$\x7bA\x7d".toList = "b".toList ∧
    render [⟨"B", "b"⟩, ⟨"A", "$\x7bB\x7d"⟩] "$\x7bA\x7d".toList = "$\x7bB\x7d".toList := by
  simp [render, replace]

end Regnant.Envoy
