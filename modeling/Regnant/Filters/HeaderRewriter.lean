import Regnant.AuthSidecar.Check
import Regnant.Filters.Host

namespace Regnant.Filters.HeaderRewriter
open AuthSidecar (Json field)

structure Config where
  add : Finmap fun _ : String => String
  remove : List String

def Config.default : Config :=
  ⟨∅, []⟩

def stringMap : Json → Option (Finmap fun _ : String => String)
  | .obj members => members.foldlM (fun map member => member.2.string.map (map.insert member.1)) ∅
  | _ => none

def Config.deserialize : Json → Option Config
  | .obj members => do
      let add ← field members "add" stringMap ∅
      let remove ← field members "remove" Json.strings []
      return ⟨add, remove⟩
  | .arr [] => some .default
  | .arr [add] => return ⟨← stringMap add, []⟩
  | .arr [add, remove] => return ⟨← stringMap add, ← remove.strings⟩
  | _ => none

section
variable {Bytes : Type} (fromSlice : Bytes → Option Json)

def Config.onConfigure (config : Config) (configuration : Option Bytes) : Config :=
  match configuration with
  | none => config
  -- what cannot be parsed leaves the old configuration in force
  | some bytes => ((fromSlice bytes).bind Config.deserialize).getD config

end

section
variable {Headers : Type} (host : ProxyHost Headers)

abbrev Entries := List (Sigma fun _ : String => String)

/-- `order` is the order in which the entries of `add` are iterated. -/
def onHttpResponseHeaders (config : Config) (order : Entries) (headers : Headers) : Headers :=
  let headers :=
    config.remove.foldl (fun headers name => host.setMapValue headers name none) headers
  order.foldl (fun headers entry => host.setMapValue headers entry.1 (some entry.2)) headers

end

end Regnant.Filters.HeaderRewriter
