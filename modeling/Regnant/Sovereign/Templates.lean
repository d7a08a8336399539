import Regnant.Lib.Traverse

namespace Regnant.Sovereign

/-! ## Objects of a template

What the templates do with the objects of their context; where it raises, there is no result. -/

structure Jinja (Obj : Type) where
  get : Obj → Option (String → Option Obj)
  iter : Obj → Option (List Obj)
  attr : Obj → String → Option Obj
  text : Obj → Option String
  /-- What `{{ x }}` makes of a text; the environment may escape it. -/
  print : String → String
  truthy : Obj → Bool
  tojson : Obj → Option String

namespace Jinja
variable {Obj : Type} (j : Jinja Obj)

def putDefault (x : Obj) (name value : String) : Option String :=
  (((j.attr x name).map j.text).getD (some value)).map j.print

def put (x : Obj) (name : String) : Option String :=
  j.putDefault x name ""

def putJson (x : Obj) (name : String) : Option String :=
  (j.attr x name).bind j.tojson

/-! ## The templates

Every tag strips the white space before it, so each line of output follows a line break. -/

def clusterLines (cluster : Obj) : Option (List String) := do
  let name ← j.put cluster "name"
  let connectTimeout ← j.putDefault cluster "connect_timeout" "2s"
  let type ← j.putDefault cluster "type" "STRICT_DNS"
  let lbPolicy ← j.putDefault cluster "lb_policy" "ROUND_ROBIN"
  let loadAssignment ← j.putJson cluster "load_assignment"
  let healthChecks ←
    if ((j.attr cluster "health_checks").map j.truthy).getD false then
      (j.putJson cluster "health_checks").map fun checks => ["  health_checks: " ++ checks]
    else some []
  some ([
    "- \"@type\": type.googleapis.com/envoy.config.cluster.v3.Cluster",
    "  name: " ++ name,
    "  connect_timeout: " ++ connectTimeout,
    "  type: " ++ type,
    "  lb_policy: " ++ lbPolicy,
    "  load_assignment: " ++ loadAssignment] ++ healthChecks)

def routeLines (route : Obj) : Option (List String) := do
  let name ← j.put route "name"
  let virtualHosts ← j.putJson route "virtual_hosts"
  some [
    "- \"@type\": type.googleapis.com/envoy.config.route.v3.RouteConfiguration",
    "  name: " ++ name,
    "  virtual_hosts: " ++ virtualHosts]

def listenerLines (listener : Obj) : Option (List String) := do
  let name ← j.put listener "name"
  let address ← j.putJson listener "address"
  let filterChains ← j.putJson listener "filter_chains"
  some [
    "- \"@type\": type.googleapis.com/envoy.config.listener.v3.Listener",
    "  name: " ++ name,
    "  address: " ++ address,
    "  filter_chains: " ++ filterChains]

def secretLines (name : String) (leaf : Obj) : Option (List String) := do
  let certificate ← j.putJson leaf "certificate_pem"
  let privateKey ← j.putJson leaf "private_key_pem"
  let ca ← j.putJson leaf "ca_cert_pem"
  some [
    "- \"@type\": type.googleapis.com/envoy.extensions.transport_sockets.tls.v3.Secret",
    "  name: " ++ j.print name ++ "-cert",
    "  tls_certificate:",
    "    certificate_chain:",
    "      inline_string: " ++ certificate,
    "    private_key:",
    "      inline_string: " ++ privateKey,
    "- \"@type\": type.googleapis.com/envoy.extensions.transport_sockets.tls.v3.Secret",
    "  name: " ++ j.print name ++ "-ca",
    "  validation_context:",
    "    trusted_ca:",
    "      inline_string: " ++ ca]

end Jinja

def output (lines : List String) : String :=
  String.join (lines.map ("\n" ++ ·))

inductive Template where
  | clusters
  | routes
  | listeners
  deriving DecidableEq

namespace Template

def key : Template → String
  | .clusters => "clusters"
  | .routes => "routes"
  | .listeners => "listeners"

variable {Obj : Type} (j : Jinja Obj)

def resourceLines : Template → Obj → Option (List String)
  | .clusters => j.clusterLines
  | .routes => j.routeLines
  | .listeners => j.listenerLines

def artifactLines (template : Template) (artifact : Obj) : Option (List String) := do
  let get ← j.get artifact
  let resources ←
    match get template.key with
    | some resources => j.iter resources
    | none => some []
  (resources.mapM (template.resourceLines j)).map List.flatten

def render (template : Template) (artifacts : List Obj) : Option String :=
  (artifacts.mapM (template.artifactLines j)).map fun lines => output lines.flatten

end Template

def renderSecrets {Obj : Type} (j : Jinja Obj) (secrets : List (String × Obj)) : Option String :=
  (secrets.mapM fun s => j.secretLines s.1 s.2).map fun lines => output lines.flatten

end Regnant.Sovereign
