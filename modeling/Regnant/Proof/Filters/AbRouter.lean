import Regnant.Filters.AbRouter
import Regnant.Lib.Machine

namespace Regnant.Filters.AbRouter
open AuthSidecar (Json)

variable {Bytes Headers : Type} {fromSlice : Bytes → Option Json} {host : ProxyHost Headers}
  {xxh3_64 : String → Nat} {config config' : Config} {s : Vm Headers}
  {events : List (Event Bytes Headers)}

def clusterHeader : String := "x-regnant-cluster"

theorem values_cluster (documented : host.Documented) (config : Config) (headers : Headers) :
    host.values (onHttpRequestHeaders host xxh3_64 config headers) clusterHeader =
      [config.target xxh3_64 (config.key host headers)] :=
  documented.set _ _ _ _ rfl

theorem values_other (documented : host.Documented) (config : Config) (headers : Headers)
    {name : String} (other : headerKey clusterHeader ≠ headerKey name) :
    host.values (onHttpRequestHeaders host xxh3_64 config headers) name =
      host.values headers name :=
  documented.other _ _ _ _ other

structure Config.Grows (config config' : Config) : Prop where
  splitHeader : config.splitHeader = config'.splitHeader
  weight : config.weight ≤ config'.weight
  clusterA : config.clusterA = config'.clusterA
  clusterB : config.clusterB = config'.clusterB

instance : DecidableRel Config.Grows := fun config config' =>
  decidable_of_iff (config.splitHeader = config'.splitHeader ∧ config.weight ≤ config'.weight ∧
      config.clusterA = config'.clusterA ∧ config.clusterB = config'.clusterB)
    ⟨fun ⟨splitHeader, weight, clusterA, clusterB⟩ => ⟨splitHeader, weight, clusterA, clusterB⟩,
      fun grows => ⟨grows.splitHeader, grows.weight, grows.clusterA, grows.clusterB⟩⟩

theorem Config.Grows.refl (config : Config) : config.Grows config :=
  ⟨rfl, le_rfl, rfl, rfl⟩

theorem Config.Grows.trans {config'' : Config} (grows : config.Grows config')
    (more : config'.Grows config'') : config.Grows config'' :=
  ⟨grows.splitHeader.trans more.splitHeader, grows.weight.trans more.weight,
    grows.clusterA.trans more.clusterA, grows.clusterB.trans more.clusterB⟩

theorem Config.Grows.key (grows : config.Grows config') (headers : Headers) :
    config.key host headers = config'.key host headers := by
  rw [Config.key, Config.key, grows.splitHeader]

theorem Config.Grows.target (grows : config.Grows config') (key : String)
    (first : config.target xxh3_64 key = config.clusterA) :
    config'.target xxh3_64 key = config'.clusterA := by
  have more := grows.weight
  by_cases below : bucket xxh3_64 key < config.weight
  · rw [Config.target, if_pos (below.trans_le more)]
  · have same : config'.clusterB = config'.clusterA := by
      rw [Config.target, if_neg below] at first
      rw [← grows.clusterA, ← grows.clusterB, first]
    rw [Config.target, same, ite_self]

namespace Vm

variable (fromSlice host xxh3_64) in
abbrev after (config : Config) (events : List (Event Bytes Headers)) : Vm Headers :=
  Machine.exec (step fromSlice host xxh3_64) { root := config } events

end Vm

def Event.parsed (fromSlice : Bytes → Option Json) : Event Bytes Headers → Option Config
  | .configure configuration => parse fromSlice configuration
  | _ => none

def Event.creates : Event Bytes Headers → Bool
  | .createHttpContext => true
  | _ => false

def inForce (fromSlice : Bytes → Option Json) (config : Config)
    (events : List (Event Bytes Headers)) : Config :=
  (events.filterMap (Event.parsed fromSlice)).getLast?.getD config

theorem inForce_cons (event : Event Bytes Headers) :
    inForce fromSlice config (event :: events) =
      inForce fromSlice ((event.parsed fromSlice).getD config) events := by
  unfold inForce
  cases parsed : event.parsed fromSlice with
  | none => rw [List.filterMap_cons_none parsed, Option.getD_none]
  | some next => rw [List.filterMap_cons_some parsed, List.getLast?_cons, Option.getD_some]; rfl

theorem onConfigure_eq (config : Config) (configuration : Option Bytes) :
    config.onConfigure fromSlice configuration = (parse fromSlice configuration).getD config := by
  cases configuration <;> rfl

section
variable (fromSlice host xxh3_64)

theorem root_step (s : Vm Headers) (event : Event Bytes Headers) :
    (s.step fromSlice host xxh3_64 event).root = (event.parsed fromSlice).getD s.root := by
  cases event with
  | configure configuration => exact onConfigure_eq s.root configuration
  | createHttpContext => rfl
  | requestHeaders context headers =>
      simp only [Vm.step]
      split <;> rfl

theorem contexts_step (s : Vm Headers) (event : Event Bytes Headers) :
    (s.step fromSlice host xxh3_64 event).contexts =
      s.contexts ++ if event.creates then [s.root] else [] := by
  cases event with
  | configure configuration => exact (List.append_nil _).symm
  | createHttpContext => rfl
  | requestHeaders context headers =>
      simp only [Vm.step]
      split <;> exact (List.append_nil _).symm

theorem root_after (config : Config) (events : List (Event Bytes Headers)) :
    (Vm.after fromSlice host xxh3_64 config events).root = inForce fromSlice config events := by
  suffices all : ∀ s : Vm Headers, (Machine.exec (Vm.step fromSlice host xxh3_64) s events).root =
      inForce fromSlice s.root events from all { root := config }
  induction events with
  | nil => exact fun _ => rfl
  | cons event events ih =>
      intro s
      rw [inForce_cons, ← root_step fromSlice host xxh3_64 s event]
      exact ih _

theorem contexts_after_append (config : Config) (events : List (Event Bytes Headers))
    (event : Event Bytes Headers) :
    (Vm.after fromSlice host xxh3_64 config (events ++ [event])).contexts =
      (Vm.after fromSlice host xxh3_64 config events).contexts ++
        if event.creates then [inForce fromSlice config events] else [] := by
  rw [Vm.after, Machine.exec, List.foldl_append, List.foldl_cons, List.foldl_nil, contexts_step,
    ← root_after fromSlice host xxh3_64 config events]

theorem length_contexts (config : Config) (events : List (Event Bytes Headers)) :
    (Vm.after fromSlice host xxh3_64 config events).contexts.length =
      events.countP Event.creates := by
  induction events using List.reverseRecOn with
  | nil => rfl
  | append_singleton events event ih =>
      rw [contexts_after_append, List.length_append, ih, List.countP_append]
      cases created : event.creates <;> simp [created]

end

theorem created {n : Nat} (known : (Vm.after fromSlice host xxh3_64 config events).contexts[n]? =
      some config') :
    ∃ before after, events = before ++ .createHttpContext :: after ∧
      before.countP Event.creates = n ∧ config' = inForce fromSlice config before := by
  induction events using List.reverseRecOn with
  | nil => cases known
  | append_singleton events event ih =>
      rw [contexts_after_append] at known
      have length := length_contexts fromSlice host xxh3_64 config events
      rcases Nat.lt_or_ge n (events.countP Event.creates) with earlier | last
      · rw [List.getElem?_append_left (length ▸ earlier)] at known
        obtain ⟨before, after, rfl, count, same⟩ := ih known
        exact ⟨before, after ++ [event], by simp, count, same⟩
      · rw [List.getElem?_append_right (length ▸ last), length] at known
        cases event with
        | createHttpContext =>
            have only : n - events.countP Event.creates = 0 ∧
                inForce fromSlice config events = config' := by
              simpa [Event.creates, List.getElem?_singleton] using known
            exact ⟨events, [], rfl, by omega, only.2.symm⟩
        | _ => simp [Event.creates] at known

theorem routed_after (config : Config) (events : List (Event Bytes Headers)) :
    ∀ r ∈ (Vm.after fromSlice host xxh3_64 config events).routed, ∃ config',
      (Vm.after fromSlice host xxh3_64 config events).contexts[r.context]? = some config' ∧
        r.sent = onHttpRequestHeaders host xxh3_64 config' r.received := by
  refine Machine.exec_invariant (I := fun s : Vm Headers => ∀ r ∈ s.routed, ∃ config',
    s.contexts[r.context]? = some config' ∧
      r.sent = onHttpRequestHeaders host xxh3_64 config' r.received) _ (fun s event routed _ => ?_)
    (by simp) (Machine.Along.true _ _ _)
  intro r member
  have stays {n : Nat} {config' : Config} (known : s.contexts[n]? = some config') :
      (s.step fromSlice host xxh3_64 event).contexts[n]? = some config' := by
    rw [contexts_step]
    exact (List.getElem?_append_left (List.getElem?_eq_some_iff.mp known).1).trans known
  have earlier (member : r ∈ s.routed) : ∃ config',
      (s.step fromSlice host xxh3_64 event).contexts[r.context]? = some config' ∧
        r.sent = onHttpRequestHeaders host xxh3_64 config' r.received := by
    obtain ⟨config', known, sent⟩ := routed r member
    exact ⟨config', stays known, sent⟩
  cases event with
  | configure configuration => exact earlier member
  | createHttpContext => exact earlier member
  | requestHeaders context headers =>
      cases known : s.contexts[context]? with
      | none =>
          simp only [Vm.step, known] at member
          exact earlier member
      | some config' =>
          have now : r ∈ ⟨context, headers, onHttpRequestHeaders host xxh3_64 config' headers⟩ ::
              s.routed := by simpa only [Vm.step, known] using member
          rcases List.mem_cons.mp now with rfl | member
          · exact ⟨config', stays known, rfl⟩
          · exact earlier member

structure Vm.Ordered (s : Vm Headers) : Prop where
  contexts : s.contexts.Pairwise Config.Grows
  root : ∀ config ∈ s.contexts, config.Grows s.root

theorem Vm.Ordered.step {event : Event Bytes Headers} (ordered : s.Ordered)
    (next : s.root.Grows (s.step fromSlice host xxh3_64 event).root) :
    (s.step fromSlice host xxh3_64 event).Ordered := by
  have contexts := contexts_step fromSlice host xxh3_64 s event
  cases creates : event.creates with
  | false =>
      rw [creates, if_neg (by decide), List.append_nil] at contexts
      refine ⟨contexts ▸ ordered.contexts, fun config member => ?_⟩
      rw [contexts] at member
      exact (ordered.root config member).trans next
  | true =>
      rw [creates, if_pos rfl] at contexts
      refine ⟨?_, fun config member => ?_⟩
      · rw [contexts, List.pairwise_append]
        refine ⟨ordered.contexts, List.pairwise_singleton _ _, fun config member config' last => ?_⟩
        rw [List.mem_singleton.mp last]
        exact ordered.root config member
      · rw [contexts, List.mem_append, List.mem_singleton] at member
        rcases member with member | rfl
        · exact (ordered.root config member).trans next
        · exact next

theorem ordered_exec {s : Vm Headers} (ordered : s.Ordered)
    (grows : (s.root :: events.filterMap (Event.parsed fromSlice)).Pairwise Config.Grows) :
    (Machine.exec (Vm.step fromSlice host xxh3_64) s events).Ordered := by
  induction events generalizing s with
  | nil => exact ordered
  | cons event events ih =>
      have root := root_step fromSlice host xxh3_64 s event
      cases parsed : event.parsed fromSlice with
      | none =>
          rw [List.filterMap_cons_none parsed] at grows
          rw [parsed, Option.getD_none] at root
          exact ih (ordered.step (root ▸ .refl _)) (root ▸ grows)
      | some config =>
          rw [List.filterMap_cons_some parsed] at grows
          rw [parsed, Option.getD_some] at root
          have next : s.root.Grows config := List.rel_of_pairwise_cons grows List.mem_cons_self
          exact ih (ordered.step (root ▸ next)) (root ▸ grows.tail)

theorem grows_of_le {n n' : Nat} {config config' : Config} (ordered : s.Ordered) (earlier : n ≤ n')
    (known : s.contexts[n]? = some config) (known' : s.contexts[n']? = some config') :
    config.Grows config' := by
  obtain ⟨bound, rfl⟩ := List.getElem?_eq_some_iff.mp known
  obtain ⟨bound', rfl⟩ := List.getElem?_eq_some_iff.mp known'
  rcases earlier.eq_or_lt with rfl | earlier
  · exact .refl _
  · exact List.pairwise_iff_getElem.mp ordered.contexts n n' bound bound' earlier

theorem grows_inForce {before more : List (Event Bytes Headers)}
    (grows : (config :: (before ++ more).filterMap (Event.parsed fromSlice)).Pairwise
      Config.Grows) : config.Grows (inForce fromSlice config before) := by
  rw [List.filterMap_append] at grows
  unfold inForce
  cases last : (before.filterMap (Event.parsed fromSlice)).getLast? with
  | none => exact .refl _
  | some config' =>
      exact List.rel_of_pairwise_cons grows
        (List.mem_append_left _ (List.mem_of_getLast? last))

/-- The header for the cluster has the one that the configuration splits the request to, and other
headers are as they were. -/
structure Splits (host : ProxyHost Headers) (xxh3_64 : String → Nat) (config : Config)
    (r : Routed Headers) : Prop where
  cluster : host.values r.sent clusterHeader =
    [config.target xxh3_64 (config.key host r.received)]
  others : ∀ name, headerKey clusterHeader ≠ headerKey name →
    host.values r.sent name = host.values r.received name

/-- Every request is split by the configuration that was in force when its stream was created,
whatever was configured after that. While configurations only raise the weight, all requests of a
key go to the first cluster once one stream of that key has come there. -/
theorem rollouts_sticky (documented : host.Documented) (config : Config)
    (events : List (Event Bytes Headers)) :
    let routed := (Vm.after fromSlice host xxh3_64 config events).routed
    (∀ r ∈ routed, ∃ before after, events = before ++ .createHttpContext :: after ∧
      before.countP Event.creates = r.context ∧
      Splits host xxh3_64 (inForce fromSlice config before) r) ∧
    ((config :: events.filterMap (Event.parsed fromSlice)).Pairwise Config.Grows →
      ∀ r ∈ routed, ∀ r' ∈ routed, r.context ≤ r'.context →
        config.key host r.received = config.key host r'.received →
        host.values r.sent clusterHeader = [config.clusterA] →
        host.values r'.sent clusterHeader = [config.clusterA]) := by
  refine ⟨fun r member => ?_, fun grows r member r' member' earlier sameKey first => ?_⟩
  · obtain ⟨config', known, sent⟩ := routed_after config events r member
    obtain ⟨before, after, split, count, rfl⟩ := created known
    refine ⟨before, after, split, count, ?_, fun name other => ?_⟩
    · rw [sent, values_cluster documented]
    · rw [sent, values_other documented _ _ other]
  · obtain ⟨own, known, sent⟩ := routed_after config events r member
    obtain ⟨own', known', sent'⟩ := routed_after config events r' member'
    have ordered : (Vm.after fromSlice host xxh3_64 config events).Ordered :=
      ordered_exec ⟨.nil, by simp⟩ grows
    have raised := grows_of_le ordered earlier known known'
    have start : config.Grows own := by
      obtain ⟨before, after, rfl, -, rfl⟩ := created known
      exact grows_inForce grows
    rw [sent, values_cluster documented, ← start.key, start.clusterA] at first
    rw [sent', values_cluster documented, ← (start.trans raised).key, ← sameKey,
      raised.target _ (List.singleton_injective first), (start.trans raised).clusterA]

def weighted (weight : Int) : Event Json (List (String × String)) :=
  .configure (some (.obj [("weight", .int weight)]))

def rollout : List (Event Json (List (String × String))) :=
  [weighted 10, .createHttpContext, weighted 40, .createHttpContext, .configure (some .null),
    .createHttpContext, weighted 60, .requestHeaders 2 [("x-ab-key", "")],
    .requestHeaders 1 [("X-AB-Key", "")], .requestHeaders 0 [("x-ab-key", "")]]

def zeroWeight : Config :=
  { Config.default with weight := 0 }

def hashEmpty (_ : String) : Nat :=
  0x2D06800538D394C2

theorem rollout_sticky :
    let routed := (Vm.after some listHost hashEmpty zeroWeight rollout).routed
    routed.map (fun r => listHost.values r.sent clusterHeader) =
        [["regnant_b"], ["regnant_a"], ["regnant_a"]] ∧
      ∀ r ∈ routed, ∀ r' ∈ routed, r.context ≤ r'.context →
        zeroWeight.key listHost r.received = zeroWeight.key listHost r'.received →
        listHost.values r.sent clusterHeader = ["regnant_a"] →
        listHost.values r'.sent clusterHeader = ["regnant_a"] := by
  exact ⟨by decide, (rollouts_sticky listHost_documented zeroWeight rollout).2 (by decide)⟩

end Regnant.Filters.AbRouter
