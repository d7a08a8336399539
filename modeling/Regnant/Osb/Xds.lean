import Regnant.Osb.SovereignYaml

namespace Regnant.Osb

inductive PathStep where
  | key (name : String)
  | each

def Value.select : List PathStep → Value → List Value
  | [], v => [v]
  | .key name :: path, .dict items => ((items.lookup name).map (select path)).getD []
  | .each :: path, .list items => items.flatMap (select path)
  | _, _ => []

def Value.str? : Value → Option String
  | .str s => some s
  | _ => Option.none

def Value.names (paths : List (List PathStep)) (document : Value) : List String :=
  paths.flatMap fun path => (document.select path).filterMap Value.str?

inductive ResourceKind where
  | cluster
  | routeConfiguration
  | listener
  deriving DecidableEq

namespace ResourceKind

def connectionManager : List PathStep :=
  [.key "listeners", .each, .key "filter_chains", .each, .key "filters", .each, .key "typed_config"]

def definitions : ResourceKind → List (List PathStep)
  | .cluster => [[.key "clusters", .each, .key "name"]]
  | .routeConfiguration =>
      [[.key "routes", .each, .key "name"], connectionManager ++ [.key "route_config", .key "name"]]
  | .listener => [[.key "listeners", .each, .key "name"]]

def routeTarget : List PathStep :=
  [.key "virtual_hosts", .each, .key "routes", .each, .key "route", .key "cluster"]

def grpcTarget : List PathStep :=
  [.key "grpc_service", .key "envoy_grpc", .key "cluster_name"]

def targets : List (List PathStep) :=
  [ [.key "routes", .each] ++ routeTarget,
    connectionManager ++ [.key "route_config"] ++ routeTarget,
    connectionManager ++
      [.key "access_log", .each, .key "typed_config", .key "common_config"] ++ grpcTarget,
    connectionManager ++ [.key "http_filters", .each, .key "typed_config"] ++ grpcTarget,
    connectionManager ++
      [.key "http_filters", .each, .key "typed_config", .key "rate_limit_service"] ++ grpcTarget]

def references : ResourceKind → List (List PathStep)
  | .cluster => [.key "clusters", .each, .key "load_assignment", .key "cluster_name"] :: targets
  | .routeConfiguration => []
  | .listener => []

end ResourceKind

def Value.Defines (document : Value) (kind : ResourceKind) (name : String) : Prop :=
  name ∈ document.names kind.definitions
  deriving Decidable

def Value.RefersTo (document : Value) (kind : ResourceKind) (name : String) : Prop :=
  name ∈ document.names kind.references
  deriving Decidable

def Value.ApartFrom (document document' : Value) : Prop :=
  ∀ kind name, document.Defines kind name ∨ document.RefersTo kind name →
    ¬document'.Defines kind name

def tlsContext : List PathStep :=
  [.key "clusters", .each, .key "transport_socket_matches", .each, .key "transport_socket",
   .key "typed_config", .key "common_tls_context"]

def Value.secretsUsed (document : Value) : List String :=
  document.names [
    tlsContext ++ [.key "tls_certificate_sds_secret_configs", .each, .key "name"],
    tlsContext ++ [.key "validation_context_sds_secret_config", .key "name"]]

def secretNames (meshServices : List String) : List String :=
  meshServices.flatMap fun name => [name ++ "-cert", name ++ "-ca"]

def defaultMeshServices : List String :=
  ["osb-api", "osb-worker", "sovereign", "envoy", "auth-sidecar", "ratelimit",
   "backend-jira-clone", "backend-confluence-clone", "backend-bitbucket-clone"]

def staticClusters : List String := ["sovereign", "otel-collector"]

def Value.addresses (document : Value) : List Value :=
  document.select [.key "listeners", .each, .key "address", .key "socket_address"]

structure Artifact where
  instanceId : String
  serviceId : String
  planId : String
  parameters : Dict
  document : Value
  rendered : renderResources instanceId serviceId planId parameters = .ok document

/-- What Sovereign serves for these artifacts and leaves refers only to what is there: every cluster
that a route or a filter uses is served or static, every secret that a cluster uses is emitted. -/
structure Closed (artifacts : List Artifact) (meshServices : List String) : Prop where
  clusters : ∀ a ∈ artifacts, ∀ name ∈ a.document.names ResourceKind.targets,
    name ∈ staticClusters ∨ ∃ b ∈ artifacts, b.document.Defines .cluster name
  secrets : ∀ a ∈ artifacts, ∀ name ∈ a.document.secretsUsed, name ∈ secretNames meshServices

end Regnant.Osb
