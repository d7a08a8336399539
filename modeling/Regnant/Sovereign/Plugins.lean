import Mathlib.Data.Rat.Lemmas
import Mathlib.Algebra.Order.Ring.Unbundled.Rat
import Regnant.Lib.Collect
import Regnant.Osb.Value
import Regnant.Sovereign.Templates

namespace Regnant.Sovereign
open Osb (Value)

inductive Exn where
  | clientError (code : String)
  | resourceNotFound
  | keyError (key : String)
  | yamlError
  | jsonDecodeError
  | other (name : String)
  deriving DecidableEq

abbrev Payload (Obj : Type) := List (String × Obj)

structure Cache (Obj : Type) where
  payload : Payload Obj
  fetchedAt : ℚ

variable {Obj Bytes : Type}

def fresh (refreshInterval : Int) (cache : Option (Cache Obj)) (now : ℚ) : Option (Payload Obj) :=
  match cache with
  | some cache => if now - cache.fetchedAt < refreshInterval then some cache.payload else none
  | none => none

def cached (refreshInterval : Int) (fetch : Except Exn (Payload Obj)) (cache : Option (Cache Obj))
    (now : ℚ) : Except Exn (Payload Obj) × Option (Cache Obj) :=
  match fresh refreshInterval cache now with
  | some payload => (.ok payload, cache)
  | none =>
      match fetch with
      | .ok payload => (.ok payload, some ⟨payload, now⟩)
      | .error e => (.error e, cache)

/-! ## Artifacts in the bucket -/

/-- The bucket during one call: the pages of a listing, each asked for with the token of the one
before, and what reading an object gives. -/
structure Bucket (Bytes : Type) where
  listObjects : String → List (List String)
  getObject : String → Except Exn Bytes

structure S3ContextPlugin where
  keyPrefix : String := "envoy-resources/"
  refreshInterval : Int := 30

def isYaml (key : String) : Bool :=
  ".yaml".toList.isSuffixOf key.toList

namespace S3ContextPlugin

def load (safeLoad : Bytes → Except Exn Obj) (bucket : Bucket Bytes) (key : String) :
    Except Exn (Option (String × Obj)) :=
  if !isYaml key then .ok none
  else do
    let body ← bucket.getObject key
    match safeLoad body with
    | .ok artifact => .ok (some (key, artifact))
    | .error .yamlError => .ok none
    | .error e => .error e

def fetch (plugin : S3ContextPlugin) (safeLoad : Bytes → Except Exn Obj) (bucket : Bucket Bytes) :
    Except Exn (Payload Obj) :=
  Collect.collect (load safeLoad bucket) (bucket.listObjects plugin.keyPrefix)

def call (plugin : S3ContextPlugin) (safeLoad : Bytes → Except Exn Obj) (bucket : Bucket Bytes)
    (cache : Option (Cache Obj)) (now : ℚ) : Except Exn (Payload Obj) × Option (Cache Obj) :=
  cached plugin.refreshInterval (plugin.fetch safeLoad bucket) cache now

end S3ContextPlugin

/-! ## Leaves in the secret store -/

structure Secret where
  secretString : Option String

structure SecretsManager where
  listSecrets : String → List (List String)
  getSecretValue : String → Except Exn Secret

structure SecretsContextPlugin where
  keyPrefix : String := "regnant/"
  refreshInterval : Int := 60

namespace SecretsContextPlugin

def leafPrefix (plugin : SecretsContextPlugin) : String :=
  plugin.keyPrefix ++ "leaf/"

def isLeaf (plugin : SecretsContextPlugin) (name : String) : Bool :=
  plugin.leafPrefix.toList.isPrefixOf name.toList

def leafKey (plugin : SecretsContextPlugin) (name : String) : String :=
  String.ofList (name.toList.drop plugin.leafPrefix.toList.length)

def read (jsonLoads : String → Except Exn Value) (secrets : SecretsManager) (name : String) :
    Except Exn Value := do
  let secret ← secrets.getSecretValue name
  match secret.secretString with
  | some payload => jsonLoads payload
  | none => .error (.keyError "SecretString")

def load (plugin : SecretsContextPlugin) (jsonLoads : String → Except Exn Value)
    (secrets : SecretsManager) (name : String) : Except Exn (Option (String × Value)) :=
  if !plugin.isLeaf name then .ok none
  else
    match read jsonLoads secrets name with
    | .ok leaf => .ok (some (plugin.leafKey name, leaf))
    | .error .resourceNotFound => .ok none
    | .error .jsonDecodeError => .ok none
    | .error e => .error e

def fetch (plugin : SecretsContextPlugin) (jsonLoads : String → Except Exn Value)
    (secrets : SecretsManager) : Except Exn (Payload Value) :=
  Collect.collect (plugin.load jsonLoads secrets) (secrets.listSecrets plugin.keyPrefix)

def call (plugin : SecretsContextPlugin) (jsonLoads : String → Except Exn Value)
    (secrets : SecretsManager) (cache : Option (Cache Value)) (now : ℚ) :
    Except Exn (Payload Value) × Option (Cache Value) :=
  cached plugin.refreshInterval (plugin.fetch jsonLoads secrets) cache now

end SecretsContextPlugin

end Regnant.Sovereign
