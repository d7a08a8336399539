import Regnant.Osb.Value

namespace Regnant.Osb

/-! ## The Sovereign document of one instance

`yaml.safe_dump` writes a document and `yaml.safe_load` reads it back, so an artifact is kept as the
document itself. -/

def defaultUpstream (serviceId : String) : Value :=
  if "edge".toList.isSuffixOf serviceId.toList then
    .dict [("host", .str "backend-bitbucket-clone"), ("port", .int 8080)]
  else if "pro".toList.isSuffixOf serviceId.toList then
    .dict [("host", .str "backend-confluence-clone"), ("port", .int 8080)]
  else
    .dict [("host", .str "backend-jira-clone"), ("port", .int 8080)]

def transportSocketMatches : Value :=
  .list [
    .dict [
      ("name", .str "mtls"),
      ("match", .dict [("tls_context", .str "required")]),
      ("transport_socket", .dict [
        ("name", .str "envoy.transport_sockets.tls"),
        ("typed_config", .dict [
          ("@type", .str
            "type.googleapis.com/envoy.extensions.transport_sockets.tls.v3.UpstreamTlsContext"),
          ("common_tls_context", .dict [
            ("tls_certificate_sds_secret_configs", .list [
              .dict [("name", .str "envoy-mtls-cert"),
                ("sds_config", .dict [("ads", .dict [])])]]),
            ("validation_context_sds_secret_config", .dict [
              ("name", .str "regnant-ca"),
              ("sds_config", .dict [("ads", .dict [])])])])])])]]

def httpConnectionManager (routeName : String) : Value :=
  .dict [
    ("@type", .str ("type.googleapis.com/envoy.extensions.filters.network." ++
      "http_connection_manager.v3.HttpConnectionManager")),
    ("stat_prefix", .str "regnant_hcm"),
    ("codec_type", .str "AUTO"),
    ("use_remote_address", .bool true),
    ("common_http_protocol_options", .dict [("idle_timeout", .str "300s")]),
    ("request_id_extension", .dict [
      ("typed_config", .dict [
        ("@type", .str
          "type.googleapis.com/envoy.extensions.request_id.uuid.v3.UuidRequestIdConfig")])]),
    ("tracing", .dict [("random_sampling", .dict [("value", .float (.finite 100))])]),
    ("access_log", .list [
      .dict [
        ("name", .str "envoy.access_loggers.open_telemetry"),
        ("typed_config", .dict [
          ("@type", .str ("type.googleapis.com/envoy.extensions.access_loggers." ++
            "open_telemetry.v3.OpenTelemetryAccessLogConfig")),
          ("common_config", .dict [
            ("log_name", .str "regnant_access"),
            ("transport_api_version", .str "V3"),
            ("grpc_service", .dict [
              ("envoy_grpc", .dict [("cluster_name", .str "otel-collector")]),
              ("timeout", .str "1s")])])])]]),
    ("http_filters", .list [
      .dict [
        ("name", .str "envoy.filters.http.ext_authz"),
        ("typed_config", .dict [
          ("@type", .str
            "type.googleapis.com/envoy.extensions.filters.http.ext_authz.v3.ExtAuthz"),
          ("grpc_service", .dict [
            ("envoy_grpc", .dict [("cluster_name", .str "auth-sidecar")]),
            ("timeout", .str "500ms")]),
          ("transport_api_version", .str "V3"),
          ("failure_mode_allow", .bool false)])],
      .dict [
        ("name", .str "envoy.filters.http.ratelimit"),
        ("typed_config", .dict [
          ("@type", .str
            "type.googleapis.com/envoy.extensions.filters.http.ratelimit.v3.RateLimit"),
          ("domain", .str "regnant"),
          ("rate_limit_service", .dict [
            ("grpc_service", .dict [
              ("envoy_grpc", .dict [("cluster_name", .str "ratelimit")]),
              ("timeout", .str "200ms")]),
            ("transport_api_version", .str "V3")])])],
      .dict [
        ("name", .str "envoy.filters.http.router"),
        ("typed_config", .dict [
          ("@type", .str
            "type.googleapis.com/envoy.extensions.filters.http.router.v3.Router")])]]),
    ("route_config", .dict [
      ("name", .str routeName),
      ("virtual_hosts", .list [
        .dict [
          ("name", .str ("resolved-" ++ routeName)),
          ("domains", .list [.str "*"]),
          ("routes", .list [
            .dict [
              ("match", .dict [("prefix", .str "/")]),
              ("route", .dict [("cluster", .str (routeName ++ "-cluster"))])]])]])])]

def clusterName (instanceId : String) : String := instanceId ++ "-cluster"

def routeName (instanceId : String) : String := instanceId ++ "-route"

def listenerName (instanceId : String) : String := instanceId ++ "-listener"

def renderResources (instanceId serviceId planId : String) (parameters : Dict) :
    Except Exn Value := do
  let upstream :=
    match parameters.lookup "upstream" with
    | some v => if v.truthy then v else defaultUpstream serviceId
    | none => defaultUpstream serviceId
  let listenPort ← ((parameters.lookup "listen_port").getD (.int 10000)).toInt
  let host ← upstream.item "host"
  let port ← upstream.item "port"
  return .dict [
    ("metadata", .dict [
      ("instance_id", .str instanceId),
      ("service_id", .str serviceId),
      ("plan_id", .str planId)]),
    ("clusters", .list [
      .dict [
        ("name", .str (clusterName instanceId)),
        ("connect_timeout", .str "2s"),
        ("type", .str "STRICT_DNS"),
        ("lb_policy", .str "ROUND_ROBIN"),
        ("transport_socket_matches", transportSocketMatches),
        ("load_assignment", .dict [
          ("cluster_name", .str (clusterName instanceId)),
          ("endpoints", .list [
            .dict [("lb_endpoints", .list [
              .dict [("endpoint", .dict [("address", .dict [("socket_address", .dict [
                ("address", host),
                ("port_value", port)])])])]])]])]),
        ("health_checks", .list [
          .dict [
            ("timeout", .str "1s"),
            ("interval", .str "5s"),
            ("unhealthy_threshold", .int 2),
            ("healthy_threshold", .int 2),
            ("http_health_check", .dict [("path", .str "/health")])]])]]),
    ("routes", .list [
      .dict [
        ("name", .str (routeName instanceId)),
        ("virtual_hosts", .list [
          .dict [
            ("name", .str ("vhost-" ++ instanceId)),
            ("domains", (parameters.lookup "domains").getD (.list [.str "*"])),
            ("routes", .list [
              .dict [
                ("match", .dict [("prefix", .str "/")]),
                ("route", .dict [
                  ("cluster", .str (clusterName instanceId)),
                  ("timeout", .str "30s")])]])]])]]),
    ("listeners", .list [
      .dict [
        ("name", .str (listenerName instanceId)),
        ("address", .dict [("socket_address", .dict [
          ("address", .str "0.0.0.0"),
          ("port_value", .int listenPort)])]),
        ("filter_chains", .list [
          .dict [("filters", .list [
            .dict [
              ("name", .str "envoy.filters.network.http_connection_manager"),
              ("typed_config", httpConnectionManager (routeName instanceId))]])]])]]),
    ("secrets", .list [])]

def Renders (instanceId serviceId planId : String) (parameters : Dict) : Prop :=
  (renderResources instanceId serviceId planId parameters).isOk = true
  deriving Decidable

theorem renders_iff {instanceId serviceId planId : String} {parameters : Dict} :
    Renders instanceId serviceId planId parameters ↔
      ∃ document, renderResources instanceId serviceId planId parameters = .ok document := by
  unfold Renders
  cases renderResources instanceId serviceId planId parameters <;> simp [Except.isOk, Except.toBool]

end Regnant.Osb
