import Mathlib.Data.Finmap
import Regnant.Lib.Replace

namespace Regnant.Envoy
open Replace (Template)

abbrev Environment :=
  Finmap fun _ : String => String

def assignDefault (env : Environment) (name value : String) : Environment :=
  if (env.lookup name).getD "" = "" then env.insert name value else env

def entrypointDefaults (hostname : String) : List (String × String) :=
  [("ENVOY_NODE_ID", "envoy-" ++ hostname), ("ENVOY_NODE_CLUSTER", "regnant-fleet"),
    ("ENVOY_REGION", "us-east-1"), ("SOVEREIGN_XDS_HOST", "sovereign"),
    ("SOVEREIGN_XDS_PORT", "8080"), ("OTEL_COLLECTOR_HOST", "otel-collector"),
    ("OTEL_COLLECTOR_PORT", "4317")]

def entrypointEnvironment (hostname : String) (env : Environment) : Environment :=
  (entrypointDefaults hostname).foldl (fun env default => assignDefault env default.1 default.2) env

abbrev Items := List (Sigma fun _ : String => String)

/-- The loop over `os.environ.items()`, which `items` has in the order of iteration. -/
def render (items : Items) (data : List Char) : List Char :=
  items.foldl (fun data item =>
    Replace.replace ("$\x7b" ++ item.1 ++ "\x7d").toList item.2.toList data) data

def lines (text : List String) : List Char :=
  ['\n'].intercalate (text.map String.toList)

def bootstrap : Template :=
  [ .plain (lines [
      "# Envoy bootstrap template. The entrypoint substitutes environment",
      "# variables at boot and writes the rendered file to /etc/envoy/bootstrap.yaml.", "",
      "node:", "  id: "]),
    .hole "ENVOY_NODE_ID".toList,
    .plain (lines ["", "  cluster: "]),
    .hole "ENVOY_NODE_CLUSTER".toList,
    .plain (lines ["", "  locality:", "    region: "]),
    .hole "ENVOY_REGION".toList,
    .plain (lines [
      "", "", "admin:", "  address:", "    socket_address:", "      address: 127.0.0.1",
      "      port_value: 9901", "", "dynamic_resources:", "  ads_config:", "    api_type: GRPC",
      "    transport_api_version: V3", "    grpc_services:", "      - envoy_grpc:",
      "          cluster_name: sovereign", "  cds_config:", "    resource_api_version: V3",
      "    ads: \x7b\x7d", "  lds_config:", "    resource_api_version: V3", "    ads: \x7b\x7d",
      "", "static_resources:", "  clusters:", "    - name: sovereign",
      "      connect_timeout: 1s", "      type: STRICT_DNS", "      lb_policy: ROUND_ROBIN",
      "      typed_extension_protocol_options:",
      "        envoy.extensions.upstreams.http.v3.HttpProtocolOptions:",
      "          \"@type\": " ++
        "type.googleapis.com/envoy.extensions.upstreams.http.v3.HttpProtocolOptions",
      "          explicit_http_config:", "            http2_protocol_options: \x7b\x7d",
      "      load_assignment:", "        cluster_name: sovereign", "        endpoints:",
      "          - lb_endpoints:", "              - endpoint:", "                  address:",
      "                    socket_address:", "                      address: "]),
    .hole "SOVEREIGN_XDS_HOST".toList,
    .plain (lines ["", "                      port_value: "]),
    .hole "SOVEREIGN_XDS_PORT".toList,
    .plain (lines [
      "", "", "    - name: otel-collector", "      connect_timeout: 1s", "      type: STRICT_DNS",
      "      lb_policy: ROUND_ROBIN", "      typed_extension_protocol_options:",
      "        envoy.extensions.upstreams.http.v3.HttpProtocolOptions:",
      "          \"@type\": " ++
        "type.googleapis.com/envoy.extensions.upstreams.http.v3.HttpProtocolOptions",
      "          explicit_http_config:", "            http2_protocol_options: \x7b\x7d",
      "      load_assignment:", "        cluster_name: otel-collector", "        endpoints:",
      "          - lb_endpoints:", "              - endpoint:", "                  address:",
      "                    socket_address:", "                      address: "]),
    .hole "OTEL_COLLECTOR_HOST".toList,
    .plain (lines ["", "                      port_value: "]),
    .hole "OTEL_COLLECTOR_PORT".toList,
    .plain (lines [
      "", "", "layered_runtime:", "  layers:", "    - name: static-layer", "      static_layer:",
      "        envoy.reloadable_features.no_extension_lookup_by_name: false", "",
      "stats_sinks: []", ""]) ]

end Regnant.Envoy
