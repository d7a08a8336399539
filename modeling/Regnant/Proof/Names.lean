import Regnant.Osb.Routes
import Regnant.Osb.Xds

namespace Regnant.Osb

def socketAddress (port : Int) : Value :=
  .dict [("address", .str "0.0.0.0"), ("port_value", .int port)]

structure Value.Rendering (id : String) (listenPort : Int) (document : Value) : Prop where
  clusters : document.names (ResourceKind.definitions .cluster) = [clusterName id]
  routes : document.names (ResourceKind.definitions .routeConfiguration) =
    [routeName id, routeName id]
  listeners : document.names (ResourceKind.definitions .listener) = [listenerName id]
  targets : document.names ResourceKind.targets =
    [clusterName id, routeName id ++ "-cluster", "otel-collector", "auth-sidecar", "ratelimit"]
  references : document.names (ResourceKind.references .cluster) =
    clusterName id :: document.names ResourceKind.targets
  secrets : document.secretsUsed = ["envoy-mtls-cert", "regnant-ca"]
  addresses : document.addresses = [socketAddress listenPort]

def listenPort (parameters : Dict) : Except Exn Int :=
  ((parameters.lookup "listen_port").getD (.int 10000)).toInt

theorem render_reads {id service plan : String} {parameters : Dict} {document : Value}
    (rendered : renderResources id service plan parameters = .ok document) :
    ∃ n, listenPort parameters = .ok n ∧ document.Rendering id n := by
  simp only [renderResources] at rendered
  cases port : ((parameters.lookup "listen_port").getD (.int 10000)).toInt with
  | error e => simp [port, bind, Except.bind] at rendered
  | ok n =>
      refine ⟨n, port, ?_⟩
      simp only [port, bind, Except.bind, pure, Except.pure] at rendered
      repeat' split at rendered
      all_goals cases rendered
      all_goals exact ⟨rfl, rfl, rfl, rfl, rfl, rfl, rfl⟩

theorem Artifact.reads (a : Artifact) : ∃ n, a.document.Rendering a.instanceId n := by
  obtain ⟨n, -, reads⟩ := render_reads a.rendered
  exact ⟨n, reads⟩

section Definitions
variable (a : Artifact) {name : String}

theorem Artifact.defines_cluster :
    a.document.Defines .cluster name ↔ name = clusterName a.instanceId := by
  obtain ⟨n, reads⟩ := a.reads
  rw [Value.Defines, reads.clusters, List.mem_singleton]

theorem Artifact.defines_route :
    a.document.Defines .routeConfiguration name ↔ name = routeName a.instanceId := by
  obtain ⟨n, reads⟩ := a.reads
  rw [Value.Defines, reads.routes, List.mem_pair, or_self]

theorem Artifact.defines_listener :
    a.document.Defines .listener name ↔ name = listenerName a.instanceId := by
  obtain ⟨n, reads⟩ := a.reads
  rw [Value.Defines, reads.listeners, List.mem_singleton]

theorem Artifact.target_iff :
    name ∈ a.document.names ResourceKind.targets ↔ name = clusterName a.instanceId ∨
      name = routeName a.instanceId ++ "-cluster" ∨ name = "otel-collector" ∨
      name = "auth-sidecar" ∨ name = "ratelimit" := by
  obtain ⟨n, reads⟩ := a.reads
  rw [reads.targets]
  simp

theorem Artifact.refersTo_cluster :
    a.document.RefersTo .cluster name ↔
      name = clusterName a.instanceId ∨ name ∈ a.document.names ResourceKind.targets := by
  obtain ⟨n, reads⟩ := a.reads
  rw [Value.RefersTo, reads.references, List.mem_cons]

end Definitions

theorem clusterName_injective : Function.Injective clusterName := by
  intro a b same
  simpa [clusterName] using same

theorem ne_clusterName {name : String} (other : ¬"-cluster".toList <:+ name.toList) (id : String) :
    name ≠ clusterName id := by
  rintro rfl
  exact other ⟨id.toList, by simp [clusterName]⟩

theorem filter_target_ne_clusterName {name : String}
    (fixed : name = "otel-collector" ∨ name = "auth-sidecar" ∨ name = "ratelimit") (id : String) :
    name ≠ clusterName id := by
  rcases fixed with rfl | rfl | rfl
  all_goals exact ne_clusterName (by decide) id

theorem inline_target_iff {a b : String} :
    routeName a ++ "-cluster" = clusterName b ↔ b = a ++ "-route" := by
  rw [show routeName a ++ "-cluster" = clusterName (a ++ "-route") from rfl,
    clusterName_injective.eq_iff]
  exact eq_comm

theorem tenants_apart_iff (a b : Artifact) (distinct : a.instanceId ≠ b.instanceId) :
    a.document.ApartFrom b.document ↔ b.instanceId ≠ a.instanceId ++ "-route" := by
  constructor
  · intro apart same
    refine apart .cluster (routeName a.instanceId ++ "-cluster") (.inr ?_) ?_
    · rw [a.refersTo_cluster, a.target_iff]
      exact .inr (.inr (.inl rfl))
    · rw [b.defines_cluster, inline_target_iff]
      exact same
  · intro free kind name named defined
    cases kind with
    | cluster =>
        rw [b.defines_cluster] at defined
        subst defined
        have other : clusterName b.instanceId ≠ clusterName a.instanceId :=
          fun same => distinct (clusterName_injective same).symm
        rw [a.defines_cluster, a.refersTo_cluster, a.target_iff] at named
        rcases named with own | own | own | inline | fixed
        · exact other own
        · exact other own
        · exact other own
        · exact free (inline_target_iff.mp inline.symm)
        · exact filter_target_ne_clusterName fixed b.instanceId rfl
    | routeConfiguration =>
        rw [b.defines_route] at defined
        rw [a.defines_route] at named
        obtain own | ref := named
        · exact distinct (by simpa [routeName] using own.symm.trans defined)
        · cases ref
    | listener =>
        rw [b.defines_listener] at defined
        rw [a.defines_listener] at named
        obtain own | ref := named
        · exact distinct (by simpa [listenerName] using own.symm.trans defined)
        · cases ref

def plainArtifact (instanceId : String) : Artifact where
  instanceId := instanceId
  serviceId := "s"
  planId := "p"
  parameters := ∅
  document := _
  rendered := rfl

theorem two_plain_tenants_apart :
    (plainArtifact "x").document.ApartFrom (plainArtifact "y").document :=
  (tenants_apart_iff (plainArtifact "x") (plainArtifact "y") (by decide)).mpr (by decide)

theorem tenants_not_always_apart :
    ¬∀ a b : Artifact, a.instanceId ≠ b.instanceId →
      (∀ c ∈ [a, b], validInstanceId c.instanceId ∧ '/' ∉ c.instanceId.toList) →
      a.document.ApartFrom b.document := by
  intro always
  refine always (plainArtifact "x") (plainArtifact "x-route") (by decide) ?_ .cluster
    "x-route-cluster" (.inr ?_) ?_
  · decide
  · decide
  · decide

theorem cert_ne_ca (a b : String) : a ++ "-cert" ≠ b ++ "-ca" := by
  intro same
  have last := congrArg (fun s => s.toList.getLast?) same
  simp at last

theorem Artifact.authorization_unserved (a : Artifact) (artifacts : List Artifact) :
    ∃ name ∈ a.document.names ResourceKind.targets,
      ¬(name ∈ staticClusters ∨ ∃ b ∈ artifacts, b.document.Defines .cluster name) := by
  refine ⟨"auth-sidecar", a.target_iff.mpr (.inr (.inr (.inr (.inl rfl)))), ?_⟩
  rintro (static | ⟨b, -, defined⟩)
  · revert static
    decide
  · exact filter_target_ne_clusterName (.inr (.inl rfl)) b.instanceId (b.defines_cluster.mp defined)

theorem closed_iff (artifacts : List Artifact) (meshServices : List String) :
    Closed artifacts meshServices ↔ artifacts = [] := by
  constructor
  · intro closed
    cases artifacts with
    | nil => rfl
    | cons a rest =>
        obtain ⟨name, used, unserved⟩ := a.authorization_unserved (a :: rest)
        exact absurd (closed.clusters a (by simp) name used) unserved
  · rintro rfl
    exact ⟨fun a member => absurd member List.not_mem_nil,
      fun a member => absurd member List.not_mem_nil⟩

theorem plain_artifact_not_closed : ¬Closed [plainArtifact "x"] defaultMeshServices := by
  intro closed
  have emitted := closed.secrets (plainArtifact "x") (by simp) "regnant-ca" (by decide)
  revert emitted
  decide

end Regnant.Osb
