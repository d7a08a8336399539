import Regnant.Proof.BindingEffects
import Regnant.Proof.Contracts
import Regnant.Proof.Disclosure

namespace Regnant.Osb
open CallTree (Meets meets_ofExcept meets_invoke)

structure Sources where
  settings : Settings
  asked : Request → String → Prop
  drawn : Draws → Prop

def Sources.of (settings : Settings) (actions : List Action) : Sources where
  settings := settings
  asked request now := ∃ serial, .start request serial now ∈ actions
  drawn draws := ∃ queue receipt delivery,
    .receive queue receipt delivery draws ∈ actions ∨ .again queue receipt delivery draws ∈ actions

def InstanceState.Reached (state : InstanceState) : Prop :=
  state = .provisioning ∨ state = .updating ∨ state = .deprovisioning ∨ state = .available

theorem InstanceState.Reached.not_failed {state : InstanceState} (reached : state.Reached) :
    state.operationState ≠ .failed := by
  rcases reached with rfl | rfl | rfl | rfl <;> decide

namespace Sources
variable (S : Sources)

inductive Configured (id : String) : String → String → Dict → Prop where
  | created {payload incomplete now} (put : S.asked (.provision id payload incomplete) now) :
      Configured id payload.serviceId payload.planId payload.parameters
  | changed {service plan parameters payload incomplete now}
      (before : Configured id service plan parameters)
      (patch : S.asked (.update id payload incomplete) now) :
      Configured id payload.serviceId (planOr payload.planId plan)
        (parameters.merge payload.parameters)

def Held (id : String) (plan : Option String) (parameters : Option Dict) : Prop :=
  plan = none ∧ parameters = none ∨ ∃ service plan' parameters',
    S.Configured id service plan' parameters' ∧ plan = some plan' ∧ parameters = some parameters'

structure Row (id : String) (item : InstanceItem) : Prop where
  origin : item.serviceId = none ∧ item.context = none ∧ item.createdAt = none ∨
    ∃ payload incomplete now, S.asked (.provision id payload incomplete) now ∧
      item.serviceId = some payload.serviceId ∧ item.context = some payload.context ∧
      item.createdAt = some now
  held : S.Held id item.planId item.parameters
  state : ∀ state, item.state = some state → state.Reached
  artifactKey : ∀ key, item.artifactKey = some key → key = S.settings.artifactKey id
  dashboardUrl : ∀ url, item.dashboardUrl = some url → url = Worker.dashboardUrl id

structure Change (id : String) (u : InstanceUpdate) : Prop where
  held : S.Held id u.planId u.parameters
  state : u.state.Reached
  artifactKey : ∀ key, u.artifactKey = some key → key = S.settings.artifactKey id
  dashboardUrl : ∀ url, u.dashboardUrl = some url → url = Worker.dashboardUrl id

def Issued (id bid : String) (credentials : Credentials) : Prop :=
  credentials = {} ∨ ∃ draws, S.drawn draws ∧ credentials = (bound draws id bid).credentials

structure BindingRow (id bid : String) (item : BindingItem) : Prop where
  origin : item.serviceId = none ∧ item.planId = none ∧ item.parameters = none ∧
      item.createdAt = none ∨
    ∃ payload now, S.asked (.bind id bid payload) now ∧
      item.serviceId = some payload.serviceId ∧ item.planId = some payload.planId ∧
      item.parameters = some payload.parameters ∧ item.createdAt = some now
  state : ∀ state, item.state = some state → state = .binding ∨ state = .bound
  credentials : ∀ credentials, item.credentials = some credentials → S.Issued id bid credentials

def Artifact (key : String) (document : Value) : Prop :=
  ∃ id service plan parameters, key = S.settings.artifactKey id ∧
    S.Configured id service plan parameters ∧
    renderResources id service plan parameters = .ok document

structure Stores (w : Aws) : Prop where
  instances : ∀ id item, w.instances id = some item → S.Row id item
  bindings : ∀ id bid item, w.bindings (bid, id) = some item → S.BindingRow id bid item
  bucket : ∀ key document, w.bucket key = some document → S.Artifact key document

inductive Task : Payload → Prop where
  | provision {id payload incomplete now} (put : S.asked (.provision id payload incomplete) now) :
      Task (.provision id payload)
  | update {id service plan parameters} (configured : S.Configured id service plan parameters) :
      Task (.update id service plan parameters)
  | deprovision {id service plan incomplete now}
      (delete : S.asked (.deprovision id service plan incomplete) now) : Task (.deprovision id)
  | bind {id bid payload now} (bind : S.asked (.bind id bid payload) now) :
      Task (.bind id bid payload)
  | unbind {id bid service plan now} (unbind : S.asked (.unbind id bid service plan) now) :
      Task (.unbind id bid)

def Said (body : MessageBody) : Prop :=
  ∃ payload, body = .object payload ∧ S.Task payload

def Disclosed (id bid : String) (credentials : BindCredentials) : Prop :=
  ∃ stored, S.Issued id bid stored ∧ credentials = .ofStored stored

def Answer : Request → Body → Prop
  | .fetchInstance id, .fetchInstance service plan url parameters =>
      (∃ payload incomplete now, S.asked (.provision id payload incomplete) now ∧
        service = payload.serviceId) ∧
      (∃ service', S.Configured id service' plan parameters) ∧
      ∀ u, url = some u → u = Worker.dashboardUrl id
  | .instanceLastOperation _, .lastOperation state _ => state ≠ .failed
  | .bind id bid _, .bind credentials =>
      credentials = placeholder id bid ∨ S.Disclosed id bid credentials
  | .fetchBinding id bid, .fetchBinding credentials parameters =>
      (∃ payload now, S.asked (.bind id bid payload) now ∧ parameters = payload.parameters) ∧
      ∀ c, credentials = some c → S.Disclosed id bid c
  | .bindingLastOperation _ _, .lastOperation state _ => state ≠ .failed
  | _, _ => True

def contract : Contract Call Call.Result Exn where
  allows
    | .putInstance id item => S.Row id item
    | .updateInstance id u => S.Change id u
    | .putBinding bid id item => S.BindingRow id bid item
    | .updateBinding bid id u => u.state = .bound ∧ S.Issued id bid u.credentials
    | .putObject key document => S.Artifact key document
    | .sendMessage _ payload => S.Task payload
    | _ => True
  promises
    | .getInstance id, r => ∀ item, r = .ok (some item) → S.Row id item
    | .getBinding bid id, r => ∀ item, r = .ok (some item) → S.BindingRow id bid item
    | _, _ => True

def terms : Terms where
  contract := S.contract
  stores := S.Stores
  message := S.Said
  answer request response := S.Answer request response.body

/-! ## Stores keep their promises -/

variable {S} {id bid now : String} {item : InstanceItem} {u : InstanceUpdate} {w : Aws}
  {bindingItem : BindingItem}

theorem Row.apply (row : S.Row id item) (change : S.Change id u) : S.Row id (u.apply item) := by
  refine ⟨row.origin, ?_, fun state same => ?_, fun key same => ?_, fun url same => ?_⟩
  · rcases change.held with ⟨plan, parameters⟩ | ⟨service, plan, parameters, made, here⟩
    · simpa [InstanceUpdate.apply, plan, parameters] using row.held
    · exact .inr ⟨service, plan, parameters, made, by simp [InstanceUpdate.apply, here]⟩
  · exact Option.some.inj same ▸ change.state
  · rcases Option.or_eq_some_iff.mp same with new | ⟨-, old⟩
    · exact change.artifactKey key new
    · exact row.artifactKey key old
  · rcases Option.or_eq_some_iff.mp same with new | ⟨-, old⟩
    · exact change.dashboardUrl url new
    · exact row.dashboardUrl url old

theorem row_empty (id : String) : S.Row id {} := by
  refine ⟨.inl ⟨rfl, rfl, rfl⟩, .inl ⟨rfl, rfl⟩, fun _ same => ?_, fun _ same => ?_,
    fun _ same => ?_⟩ <;> cases same

theorem BindingRow.complete (row : S.BindingRow id bid bindingItem) {u : BindingUpdate}
    (state : u.state = .bound) (issued : S.Issued id bid u.credentials) :
    S.BindingRow id bid (u.apply bindingItem) :=
  ⟨row.origin, fun _ same => .inr (Option.some.inj same ▸ state),
    fun _ same => Option.some.inj same ▸ issued⟩

theorem bindingRow_empty (id bid : String) : S.BindingRow id bid {} := by
  refine ⟨.inl ⟨rfl, rfl, rfl, rfl⟩, fun _ same => ?_, fun _ same => ?_⟩ <;> cases same

theorem writes_instance {c : Call} (allowed : S.contract.allows c) (id : String) :
    (c.onInstance id).Writes (S.Row id) := by
  cases c with
  | putInstance id' item =>
      refine RowChange.writes_onKey ?_
      rintro rfl
      exact allowed
  | updateInstance id' u =>
      refine RowChange.writes_onKey ?_
      rintro rfl
      exact ⟨row_empty id', fun _ row => row.apply allowed⟩
  | deleteInstance id' => exact RowChange.writes_onKey fun _ => trivial
  | _ => trivial

theorem writes_binding {c : Call} (allowed : S.contract.allows c) (id bid : String) :
    (c.onBinding (bid, id)).Writes (S.BindingRow id bid) := by
  cases c with
  | putBinding bid' id' item =>
      refine RowChange.writes_onKey ?_
      rintro ⟨⟩
      exact allowed
  | updateBinding bid' id' u =>
      refine RowChange.writes_onKey ?_
      rintro ⟨⟩
      exact ⟨bindingRow_empty id bid, fun _ row => row.complete allowed.1 allowed.2⟩
  | deleteBinding bid' id' => exact RowChange.writes_onKey fun _ => trivial
  | _ => trivial

theorem bucket_perform {self : ExecutionName} {c : Call} (allowed : S.contract.allows c)
    (bucket : ∀ key document, w.bucket key = some document → S.Artifact key document) :
    ∀ key document, (perform self c w).2.bucket key = some document →
      S.Artifact key document := by
  intro key document found
  cases c with
  | putObject key' document' =>
      simp only [perform, Function.update_apply] at found
      split at found
      next same =>
        obtain rfl := Option.some.inj found
        exact same ▸ allowed
      next => exact bucket key document found
  | deleteObject key' =>
      simp only [perform, Function.update_apply] at found
      split at found
      · cases found
      · exact bucket key document found
  | putInstance id item =>
      simp only [perform] at found
      split at found <;> exact bucket key document found
  | putBinding bid id item =>
      simp only [perform] at found
      split at found <;> exact bucket key document found
  | sendMessage queue payload => cases queue <;> exact bucket key document found
  | _ => exact bucket key document found

theorem Stores.perform {self : ExecutionName} {c : Call} (allowed : S.contract.allows c)
    (stores : S.Stores w) : S.Stores (perform self c w).2 where
  instances id item found := by
    rw [perform_instances] at found
    exact RowChange.apply_writes (writes_instance allowed id) (stores.instances id) found
  bindings id bid item found := by
    rw [perform_bindings] at found
    exact RowChange.apply_writes (writes_binding allowed id bid) (stores.bindings id bid) found
  bucket := bucket_perform allowed stores.bucket

theorem Stores.promises {self : ExecutionName} {c : Call} (stores : S.Stores w) :
    S.contract.promises c (Osb.perform self c w).1 := by
  cases c with
  | getInstance id => exact fun item found => stores.instances id item (Except.ok.inj found)
  | getBinding bid id => exact fun item found => stores.bindings id bid item (Except.ok.inj found)
  | _ => trivial

structure Read (S : Sources) (id : String) (inst : Instance) : Prop where
  origin : ∃ payload incomplete now, S.asked (.provision id payload incomplete) now ∧
    inst.serviceId = payload.serviceId
  configured : ∃ service, S.Configured id service inst.planId inst.parameters
  state : inst.state.Reached
  dashboardUrl : ∀ url, inst.dashboardUrl = some url → url = Worker.dashboardUrl id

structure BindingRead (S : Sources) (id bid : String) (binding : Binding) : Prop where
  origin : ∃ payload now, S.asked (.bind id bid payload) now ∧
    binding.parameters = payload.parameters
  state : binding.state = .binding ∨ binding.state = .bound
  credentials : S.Issued id bid binding.credentials

theorem instanceFromItem_dashboardUrl {inst : Instance}
    (read : instanceFromItem id item = .ok inst) : inst.dashboardUrl = item.dashboardUrl := by
  obtain ⟨service, plan, state, parameters, context, created, updated⟩ := item
  cases service <;> cases plan <;> cases state <;> cases created <;> cases updated <;>
    simp only [instanceFromItem, require, bind, Except.bind, pure, Except.pure, Except.ok.injEq,
      reduceCtorEq] at read
  exact read ▸ rfl

theorem Row.read (row : S.Row id item) {inst : Instance}
    (read : instanceFromItem id item = .ok inst) : S.Read id inst := by
  obtain ⟨service, plan, state, parameters, -⟩ := instanceFromItem_ok read
  refine ⟨?_, ?_, row.state _ state, instanceFromItem_dashboardUrl read ▸ row.dashboardUrl⟩
  · rcases row.origin with ⟨missing, -⟩ | ⟨payload, incomplete, now, asked, here, -⟩
    · cases missing.symm.trans service
    · exact ⟨payload, incomplete, now, asked, Option.some.inj (service.symm.trans here)⟩
  · rcases row.held with ⟨missing, -⟩ | ⟨service', plan', parameters', made, here, held⟩
    · cases missing.symm.trans plan
    · obtain rfl := Option.some.inj (plan.symm.trans here)
      rw [parameters, held]
      exact ⟨service', made⟩

theorem BindingRow.read (row : S.BindingRow id bid bindingItem) {binding : Binding}
    (read : bindingFromItem bid id bindingItem = .ok binding) : S.BindingRead id bid binding := by
  obtain ⟨service, -, state, credentials⟩ := bindingFromItem_ok read
  refine ⟨?_, row.state _ state, ?_⟩
  · rcases row.origin with ⟨missing, -⟩ | ⟨payload, now, asked, -, -, here, -⟩
    · cases missing.symm.trans service
    · exact ⟨payload, now, asked, by rw [bindingFromItem_parameters read, here]; rfl⟩
  · rw [credentials]
    cases stored : bindingItem.credentials with
    | none => exact .inl rfl
    | some c => exact row.credentials c stored

theorem meets_get (id : String) : (InstanceStore.get id).Meets S.contract (S.Read id) := by
  have row : (invoke (.getInstance id)).Meets S.contract
      fun row => ∀ item, row = some item → S.Row id item :=
    meets_invoke trivial fun _ promised item same => promised item (congrArg Except.ok same)
  refine row.bind fun row known => ?_
  cases row with
  | none => trivial
  | some item => exact meets_ofExcept fun inst read => (known item rfl).read read

theorem meets_getOrNone (id : String) :
    (InstanceStore.getOrNone id).Meets S.contract fun _ => True := by
  refine (meets_get id).attempt.bind fun result _ => ?_
  split <;> trivial

theorem meets_getBinding (id bid : String) :
    (BindingStore.get bid id).Meets S.contract (S.BindingRead id bid) := by
  have row : (invoke (.getBinding bid id)).Meets S.contract
      fun row => ∀ item, row = some item → S.BindingRow id bid item :=
    meets_invoke trivial fun _ promised item same => promised item (congrArg Except.ok same)
  refine row.bind fun row known => ?_
  cases row with
  | none => trivial
  | some item => exact meets_ofExcept fun binding read => (known item rfl).read read

theorem meets_getBindingOrNone (id bid : String) :
    (BindingStore.getOrNone bid id).Meets S.contract fun result =>
      ∀ binding, result = some binding → S.BindingRead id bid binding := by
  refine (meets_getBinding id bid).attempt.bind fun result known => ?_
  split
  next binding =>
    rintro _ ⟨⟩
    exact known binding rfl
  next => exact fun _ same => by cases same
  next => trivial

/-! ## Routes -/

section
variable {service plan : String} {incomplete : Bool}

theorem meets_send {queue : QueueName} {payload : Payload} (task : S.Task payload) :
    (TaskQueue.send queue payload).Meets S.contract fun _ => True :=
  meets_invoke task fun _ _ => trivial

theorem meets_transition (change : S.Change id u) :
    (InstanceStore.transition id u).Meets S.contract fun _ => True :=
  meets_invoke change fun _ _ => trivial

theorem row_newItem {payload : ProvisionRequest}
    (asked : S.asked (.provision id payload incomplete) now) :
    S.Row id (InstanceStore.newItem now payload.serviceId payload.planId payload.parameters
      payload.context) := by
  refine ⟨.inr ⟨payload, incomplete, now, asked, rfl, rfl, rfl⟩,
    .inr ⟨_, _, _, .created asked, rfl, rfl⟩, fun _ same => .inl (Option.some.inj same).symm,
    fun _ same => ?_, fun _ same => ?_⟩ <;> cases same

theorem meets_create {payload : ProvisionRequest}
    (asked : S.asked (.provision id payload incomplete) now) :
    (InstanceStore.create now id payload.serviceId payload.planId payload.parameters
      payload.context).Meets S.contract fun _ => True := by
  have put : (invoke (.putInstance id (InstanceStore.newItem now payload.serviceId payload.planId
      payload.parameters payload.context))).Meets S.contract fun _ => True :=
    meets_invoke (row_newItem asked) fun _ _ => trivial
  refine put.attempt.bind fun result _ => ?_
  split
  · trivial
  · trivial
  · exact meets_ofExcept fun _ _ => trivial

theorem meets_provisionInstance {payload : ProvisionRequest}
    (asked : S.asked (.provision id payload incomplete) now) :
    (provisionInstance now id payload incomplete).Meets S.contract
      (S.Answer (.provision id payload incomplete)) := by
  unfold provisionInstance
  split
  · trivial
  · refine (meets_getOrNone id).bind fun existing _ => ?_
    cases existing with
    | some existing =>
        dsimp only
        split <;> trivial
    | none =>
        exact (meets_create asked).bind fun _ _ => (meets_send (.provision asked)).bind
          fun _ _ => trivial

theorem meets_updateInstance {payload : UpdateRequest}
    (asked : S.asked (.update id payload incomplete) now) :
    (updateInstance now id payload incomplete).Meets S.contract
      (S.Answer (.update id payload incomplete)) := by
  unfold updateInstance
  split
  · trivial
  · refine (meets_get id).bind fun inst known => ?_
    obtain ⟨service, configured⟩ := known.configured
    have changed := configured.changed asked
    refine (meets_transition ⟨.inr ⟨_, _, _, changed, rfl, rfl⟩, .inr (.inl rfl), ?_, ?_⟩).bind
      fun _ _ => (meets_send (.update changed)).bind fun _ _ => trivial
    · exact fun _ same => by cases same
    · exact fun _ same => by cases same

theorem meets_deprovisionInstance
    (asked : S.asked (.deprovision id service plan incomplete) now) :
    (deprovisionInstance now id service plan incomplete).Meets S.contract
      (S.Answer (.deprovision id service plan incomplete)) := by
  unfold deprovisionInstance
  split
  · trivial
  · refine (meets_get id).bind fun inst _ => ?_
    split
    · trivial
    · refine (meets_transition ⟨.inl ⟨rfl, rfl⟩, .inr (.inr (.inl rfl)), ?_, ?_⟩).bind
        fun _ _ => (meets_send (.deprovision asked)).bind fun _ _ => trivial
      · exact fun _ same => by cases same
      · exact fun _ same => by cases same

theorem meets_fetchInstance (id : String) :
    (fetchInstance id).Meets S.contract (S.Answer (.fetchInstance id)) :=
  (meets_get id).bind fun _ known => ⟨known.origin, known.configured, known.dashboardUrl⟩

theorem meets_instanceLastOperation (id : String) :
    (instanceLastOperation id).Meets S.contract (S.Answer (.instanceLastOperation id)) :=
  (meets_get id).bind fun _ known => known.state.not_failed

theorem meets_createBinding {payload : BindRequest} (asked : S.asked (.bind id bid payload) now) :
    (BindingStore.create now bid id payload.serviceId payload.planId payload.parameters).Meets
      S.contract fun _ => True := by
  have row : S.BindingRow id bid (BindingStore.newItem now payload.serviceId payload.planId
      payload.parameters) :=
    ⟨.inr ⟨payload, now, asked, rfl, rfl, rfl, rfl⟩,
      fun _ same => .inl (Option.some.inj same).symm,
      fun _ same => .inl (Option.some.inj same).symm⟩
  have put : (invoke (.putBinding bid id (BindingStore.newItem now payload.serviceId payload.planId
      payload.parameters))).Meets S.contract fun _ => True :=
    meets_invoke row fun _ _ => trivial
  refine put.attempt.bind fun result _ => ?_
  split
  · trivial
  · trivial
  · exact meets_ofExcept fun _ _ => trivial

theorem meets_bindInstance {payload : BindRequest} (asked : S.asked (.bind id bid payload) now) :
    (bindInstance now id bid payload).Meets S.contract (S.Answer (.bind id bid payload)) := by
  unfold bindInstance
  refine (meets_get id).bind fun inst _ => ?_
  split
  · trivial
  · refine (meets_getBindingOrNone id bid).bind fun existing known => ?_
    split
    next binding kept =>
      have same : existing = some binding := (Option.filter_eq_some_iff.mp kept).1
      exact .inr ⟨binding.credentials, (known binding same).credentials, rfl⟩
    next =>
      exact (meets_createBinding asked).bind fun _ _ => (meets_send (.bind asked)).bind
        fun _ _ => .inl rfl

theorem meets_unbindInstance (asked : S.asked (.unbind id bid service plan) now) :
    (unbindInstance id bid service plan).Meets S.contract
      (S.Answer (.unbind id bid service plan)) := by
  unfold unbindInstance
  refine (meets_getBinding id bid).bind fun binding _ => ?_
  split
  · trivial
  · have deleted : (BindingStore.delete bid id).Meets S.contract fun _ => True :=
      meets_invoke trivial fun _ _ => trivial
    exact (meets_send (.unbind asked)).bind fun _ _ => deleted.bind fun _ _ => trivial

theorem meets_fetchBinding (id bid : String) :
    (fetchBinding id bid).Meets S.contract (S.Answer (.fetchBinding id bid)) := by
  refine (meets_getBinding id bid).bind fun binding known => ⟨known.origin, fun c same => ?_⟩
  split at same
  · cases same
  · exact ⟨binding.credentials, known.credentials, (Option.some.inj same).symm⟩

theorem meets_bindingLastOperation (id bid : String) :
    (bindingLastOperation id bid).Meets S.contract (S.Answer (.bindingLastOperation id bid)) := by
  refine (meets_getBinding id bid).attempt.bind fun result known => ?_
  split
  next binding =>
    rcases (known binding rfl).state with state | state <;>
      simp [Meets, Answer, state, BindingState.operationState]
  next => exact fun same => by cases same
  next => trivial

end

theorem answer_error (asked : Request) (code description : String) :
    S.Answer asked (.error code description) := by
  cases asked <;> trivial

theorem answer_serverError (asked : Request) : S.Answer asked .serverError := by
  cases asked <;> trivial

theorem meets_routed {asked : Request} {status : Nat} {route : Handler Body}
    (meets : route.Meets S.contract (S.Answer asked)) :
    (respond status route).Meets S.contract fun response => S.Answer asked response.body :=
  meets_respond meets (fun _ answered => answered) (fun _ => answer_error asked _ _)
    (answer_serverError asked)

theorem meets_app {asked : Request} (arrived : S.asked asked now) :
    (app now asked).Meets S.contract fun response => S.Answer asked response.body := by
  cases asked with
  | provision id payload incomplete =>
      simp only [app]
      split
      · exact meets_routed (meets_provisionInstance arrived)
      · trivial
  | update => exact meets_routed (meets_updateInstance arrived)
  | deprovision => exact meets_routed (meets_deprovisionInstance arrived)
  | fetchInstance id => exact meets_routed (meets_fetchInstance id)
  | instanceLastOperation id => exact meets_routed (meets_instanceLastOperation id)
  | bind => exact meets_routed (meets_bindInstance arrived)
  | unbind => exact meets_routed (meets_unbindInstance arrived)
  | fetchBinding id bid => exact meets_routed (meets_fetchBinding id bid)
  | bindingLastOperation id bid => exact meets_routed (meets_bindingLastOperation id bid)

/-! ## Handlers -/

section
variable {service plan : String} {parameters : Dict} {draws : Draws}

theorem meets_publish {document : Value} {u : String → InstanceUpdate}
    (configured : S.Configured id service plan parameters)
    (rendered : renderResources id service plan parameters = .ok document)
    (change : S.Change id (u (S.settings.artifactKey id))) :
    (do
      let key ← ArtifactStore.write S.settings id document
      InstanceStore.transition id (u key)).Meets S.contract fun _ => True := by
  have written : (ArtifactStore.write S.settings id document).Meets S.contract
      (· = S.settings.artifactKey id) := by
    have artifact : S.contract.allows (.putObject (S.settings.artifactKey id) document) :=
      ⟨id, service, plan, parameters, rfl, configured, rendered⟩
    exact (meets_invoke (Q := fun _ => True) artifact fun _ _ => trivial).bind fun _ _ => rfl
  refine written.bind fun key same => ?_
  rw [same]
  exact meets_transition change

theorem meets_render {parameters' : Dict} {u : String → InstanceUpdate}
    (configured : S.Configured id service plan parameters')
    (change : S.Change id (u (S.settings.artifactKey id))) :
    (do
      let document ← CallTree.ofExcept (renderResources id service plan parameters')
      let key ← ArtifactStore.write S.settings id document
      InstanceStore.transition id (u key) : Handler Unit).Meets S.contract fun _ => True :=
  (meets_ofExcept fun _ rendered => rendered).bind fun _ rendered =>
    meets_publish configured rendered change

theorem change_available {u : InstanceUpdate} (held : S.Held id u.planId u.parameters)
    (state : u.state = .available) (key : u.artifactKey = some (S.settings.artifactKey id))
    (dashboardUrl : u.dashboardUrl = none ∨ u.dashboardUrl = some (Worker.dashboardUrl id)) :
    S.Change id u := by
  refine ⟨held, .inr (.inr (.inr state)), fun _ same => ?_, fun url same => ?_⟩
  · exact Option.some.inj (same.symm.trans key)
  · rcases dashboardUrl with none | own
    · cases none.symm.trans same
    · exact Option.some.inj (same.symm.trans own)

theorem meets_provision {payload : ProvisionRequest} {incomplete : Bool} {now' : String}
    (asked : S.asked (.provision id payload incomplete) now') :
    (Worker.provision S.settings now (.provision id payload)).Meets S.contract fun _ => True := by
  have program : Worker.provision S.settings now (.provision id payload) = (do
      let document ← CallTree.ofExcept
        (renderResources id payload.serviceId payload.planId payload.parameters)
      let key ← ArtifactStore.write S.settings id document
      InstanceStore.transition id { provisioned S.settings now id with artifactKey := key }) := rfl
  rw [program]
  exact meets_render (.created asked) (change_available (.inl ⟨rfl, rfl⟩) rfl rfl (.inr rfl))

theorem meets_update (configured : S.Configured id service plan parameters) :
    (Worker.update S.settings now (.update id service plan parameters)).Meets S.contract
      fun _ => True := by
  rw [update_program]
  refine (meets_get id).attempt.bind fun result _ => ?_
  split
  · trivial
  · trivial
  · exact meets_render configured
      (change_available (.inr ⟨_, _, _, configured, rfl, rfl⟩) rfl rfl (.inl rfl))

theorem meets_dispatch {payload : Payload} (task : S.Task payload) (drawn : S.drawn draws) :
    (Worker.dispatch S.settings draws payload).Meets S.contract fun _ => True := by
  cases task with
  | provision asked => exact meets_provision asked
  | update configured => exact meets_update configured
  | @deprovision id =>
      have withdrawn : (ArtifactStore.delete S.settings id).Meets S.contract fun _ => True :=
        meets_invoke trivial fun _ _ => trivial
      have removed : (InstanceStore.delete id).Meets S.contract fun _ => True :=
        meets_invoke trivial fun _ _ => trivial
      exact withdrawn.bind fun _ _ => removed
  | @bind id bid => exact meets_invoke ⟨rfl, .inr ⟨draws, drawn, rfl⟩⟩ fun _ _ => trivial
  | unbind => trivial

theorem meets_handle {queue : QueueName} {message : Message} (said : S.Said message.body)
    (drawn : S.drawn draws) :
    (Worker.handle S.settings queue draws message).Meets S.contract fun _ => True := by
  obtain ⟨receipt, body⟩ := message
  obtain ⟨payload, rfl, task⟩ := said
  refine (meets_dispatch task drawn).attempt.bind fun result _ => ?_
  cases result with
  | error e => trivial
  | ok => exact meets_invoke trivial fun _ _ => trivial

end

theorem terms_hold (settings : Settings) (actions : List Action) :
    (of settings actions).terms.Hold settings (· ∈ actions) where
  performs _ _ _ allowed stores := stores.perform allowed
  takes _ queue _ stores := by
    cases queue <;> exact ⟨stores.instances, stores.bindings, stores.bucket⟩
  sends _ payload task := ⟨payload, rfl, task⟩
  replies _ _ _ stores := stores.promises
  fails c := by
    cases c with
    | getInstance => exact fun _ same => by cases same
    | getBinding => exact fun _ same => by cases same
    | _ => trivial
  routes _ serial _ arrived := meets_app ⟨serial, arrived⟩
  raised := answer_serverError
  handles queue receipt delivery _ _ drawn said :=
    meets_handle said ⟨queue, receipt, delivery, drawn⟩

end Sources

/-- Nothing comes out of thin air. In every run, call by call, with failing calls and with messages
delivered again: every row, artifact, message and answer is made of what was asked for and of what
the worker drew. -/
theorem nothing_made_up (settings : Settings) (actions : List Action) :
    (Sources.of settings actions).Stores (System.after settings .empty actions).aws ∧
      (∀ queue, ∀ message ∈ (System.after settings .empty actions).aws.tasks queue,
        (Sources.of settings actions).Said message.body) ∧
      ∀ answer ∈ (System.after settings .empty actions).answers,
        (Sources.of settings actions).Answer answer.request answer.response.body := by
  have stores : (Sources.of settings actions).Stores .empty := by
    refine ⟨fun _ _ found => ?_, fun _ _ _ found => ?_, fun _ _ found => ?_⟩ <;> cases found
  have waiting : (Sources.of settings actions).terms.Waiting .empty := by
    intro queue message member
    cases queue <;> cases member
  have under :=
    run_under (Sources.terms_hold settings actions) stores waiting fun _ member => member
  exact ⟨under.stores, under.waiting, under.answers⟩

end Regnant.Osb
