import Regnant.Lib.Cell
import Regnant.Lib.Paging
import Regnant.Sovereign.Plugins

namespace Regnant.Sovereign
open Osb (Value)

variable {Obj Bytes : Type}

def truthy (token : Option String) : Option String :=
  token.filter fun token => decide (token ≠ "")

/-- `__call__`, if the listing has at most `pages` pages. The cell holds `_cache`. -/
def refresh {C : Type} {R : C → Type} {ρ ν : Type} (refreshInterval : Int)
    (reader : Paging.Reader C R Exn ρ String ν String Obj) (pages : Nat) (now : ℚ) :
    CallTree (Cell.Call C (Option (Cache Obj))) (Cell.Call.Result R) Exn
      (Option (Payload Obj)) := do
  match fresh refreshInterval (← Cell.get) now with
  | some payload => return some payload
  | none =>
      match ← Cell.lift (reader.walk pages none []) with
      | some payload => do
          Cell.set (some ⟨payload, now⟩)
          return some payload
      | none => return none

structure ListObjectsV2 where
  contents : Option (List String) := none
  isTruncated : Option Bool := none
  nextContinuationToken : Option String := none

inductive S3Call where
  | listObjectsV2 (keyPrefix : String) (continuationToken : Option String)
  | getObject (key : String)

abbrev S3Call.Result (Bytes : Type) : S3Call → Type
  | .listObjectsV2 _ _ => ListObjectsV2
  | .getObject _ => Bytes

def S3ContextPlugin.reader (plugin : S3ContextPlugin) (safeLoad : Bytes → Except Exn Obj) :
    Paging.Reader S3Call (S3Call.Result Bytes) Exn ListObjectsV2 String String String Obj where
  list token := CallTree.invoke (S3Call.listObjectsV2 plugin.keyPrefix (truthy token))
  names response := response.contents.getD []
  next response :=
    if response.isTruncated.getD false then some response.nextContinuationToken else none
  load key :=
    if !isYaml key then return none
    else do
      let body ← CallTree.invoke (S3Call.getObject key)
      match safeLoad body with
      | .ok artifact => return some (key, artifact)
      | .error .yamlError => return none
      | .error e => CallTree.raise e

structure ListSecrets where
  secretList : Option (List String) := none
  nextToken : Option String := none

inductive SecretsCall where
  | listSecrets (namePrefix : String) (maxResults : Nat) (nextToken : Option String)
  | getSecretValue (secretId : String)

abbrev SecretsCall.Result : SecretsCall → Type
  | .listSecrets _ _ _ => ListSecrets
  | .getSecretValue _ => Secret

namespace SecretsContextPlugin
variable (plugin : SecretsContextPlugin) (jsonLoads : String → Except Exn Value)

def readSecret (name : String) : CallTree SecretsCall SecretsCall.Result Exn Value := do
  let secret ← CallTree.invoke (SecretsCall.getSecretValue name)
  match secret.secretString with
  | some payload => CallTree.ofExcept (jsonLoads payload)
  | none => CallTree.raise (.keyError "SecretString")

def reader :
    Paging.Reader SecretsCall SecretsCall.Result Exn ListSecrets String String String Value where
  list token := CallTree.invoke (SecretsCall.listSecrets plugin.keyPrefix 100 (truthy token))
  names response := response.secretList.getD []
  next response := (truthy response.nextToken).map some
  load name :=
    if !plugin.isLeaf name then return none
    else do
      match ← (readSecret jsonLoads name).attempt with
      | .ok leaf => return some (plugin.leafKey name, leaf)
      | .error .resourceNotFound => return none
      | .error .jsonDecodeError => return none
      | .error e => CallTree.raise e

end SecretsContextPlugin

end Regnant.Sovereign
