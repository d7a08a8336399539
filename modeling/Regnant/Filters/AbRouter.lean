import Regnant.AuthSidecar.Check
import Regnant.Filters.Host

namespace Regnant.Filters.AbRouter
open AuthSidecar (Json field)

def u32 : Json → Option Nat
  | .int n => if 0 ≤ n ∧ n < 2 ^ 32 then some n.toNat else none
  | _ => none

structure Config where
  splitHeader : String
  weight : Nat
  clusterA : String
  clusterB : String
  deriving DecidableEq

def defaultHeader : String := "x-ab-key"
def defaultWeight : Nat := 50
def defaultClusterA : String := "regnant_a"
def defaultClusterB : String := "regnant_b"

def Config.default : Config :=
  ⟨defaultHeader, defaultWeight, defaultClusterA, defaultClusterB⟩

def Config.deserialize : Json → Option Config
  | .obj members => do
      let splitHeader ← field members "split_header" Json.string defaultHeader
      let weight ← field members "weight" u32 defaultWeight
      let clusterA ← field members "cluster_a" Json.string defaultClusterA
      let clusterB ← field members "cluster_b" Json.string defaultClusterB
      return ⟨splitHeader, weight, clusterA, clusterB⟩
  | .arr items =>
      -- what an array leaves out at its end has its default
      if items.length ≤ 4 then do
        let splitHeader ← items[0]?.elim (some defaultHeader) Json.string
        let weight ← items[1]?.elim (some defaultWeight) u32
        let clusterA ← items[2]?.elim (some defaultClusterA) Json.string
        let clusterB ← items[3]?.elim (some defaultClusterB) Json.string
        return ⟨splitHeader, weight, clusterA, clusterB⟩
      else none
  | _ => none

section
variable {Bytes : Type} (fromSlice : Bytes → Option Json)

def parse (configuration : Option Bytes) : Option Config :=
  configuration.bind fun bytes => (fromSlice bytes).bind Config.deserialize

def Config.onConfigure (config : Config) (configuration : Option Bytes) : Config :=
  match configuration with
  | none => config
  -- what cannot be parsed leaves the old configuration in force
  | some bytes => ((fromSlice bytes).bind Config.deserialize).getD config

end

section
variable {Headers : Type} (host : ProxyHost Headers) (xxh3_64 : String → Nat)

def Config.key (config : Config) (headers : Headers) : String :=
  (host.getMapValue headers config.splitHeader).getD
    ((host.getMapValue headers ":authority").getD "anon")

def bucket (key : String) : Nat :=
  xxh3_64 key % 100

def Config.target (config : Config) (key : String) : String :=
  if bucket xxh3_64 key < config.weight then config.clusterA else config.clusterB

def onHttpRequestHeaders (config : Config) (headers : Headers) : Headers :=
  let target := config.target xxh3_64 (config.key host headers)
  host.setMapValue headers "x-regnant-cluster" (some target)

end

inductive Event (Bytes Headers : Type) where
  | configure (configuration : Option Bytes)
  | createHttpContext
  | requestHeaders (context : Nat) (headers : Headers)

structure Routed (Headers : Type) where
  context : Nat
  received : Headers
  sent : Headers

structure Vm (Headers : Type) where
  root : Config := .default
  contexts : List Config := []
  routed : List (Routed Headers) := []

section
variable {Bytes Headers : Type} (fromSlice : Bytes → Option Json) (host : ProxyHost Headers)
  (xxh3_64 : String → Nat)

def Vm.step (s : Vm Headers) : Event Bytes Headers → Vm Headers
  | .configure configuration => { s with root := s.root.onConfigure fromSlice configuration }
  | .createHttpContext => { s with contexts := s.contexts ++ [s.root] }
  | .requestHeaders context headers =>
      match s.contexts[context]? with
      | none => s
      | some config =>
          let sent := onHttpRequestHeaders host xxh3_64 config headers
          { s with routed := ⟨context, headers, sent⟩ :: s.routed }

end

end Regnant.Filters.AbRouter
