import Regnant.Osb.Broker

namespace Regnant.Osb
open CallTree

inductive Request.Footprint : Request → Call → Prop where
  | getInstance (request) : Footprint request (.getInstance request.instanceId)
  | putInstance {id payload incomplete} (item) :
      Footprint (.provision id payload incomplete) (.putInstance id item)
  | sendProvision {id payload incomplete} :
      Footprint (.provision id payload incomplete) (.sendMessage .provision (.provision id payload))
  | queueUpdate {id payload incomplete} (u) :
      Footprint (.update id payload incomplete) (.updateInstance id u)
  | sendUpdate {id payload incomplete} (plan parameters) :
      Footprint (.update id payload incomplete)
        (.sendMessage .provision (.update id payload.serviceId plan parameters))
  | queueDeprovision {id service plan incomplete} (u) :
      Footprint (.deprovision id service plan incomplete) (.updateInstance id u)
  | sendDeprovision {id service plan incomplete} :
      Footprint (.deprovision id service plan incomplete)
        (.sendMessage .provision (.deprovision id))
  | bindGet {id bid payload} : Footprint (.bind id bid payload) (.getBinding bid id)
  | bindPut {id bid payload} (item) : Footprint (.bind id bid payload) (.putBinding bid id item)
  | sendBind {id bid payload} :
      Footprint (.bind id bid payload) (.sendMessage .binding (.bind id bid payload))
  | unbindGet {id bid service plan} : Footprint (.unbind id bid service plan) (.getBinding bid id)
  | sendUnbind {id bid service plan} :
      Footprint (.unbind id bid service plan) (.sendMessage .binding (.unbind id bid))
  | unbindDelete {id bid service plan} :
      Footprint (.unbind id bid service plan) (.deleteBinding bid id)
  | fetchGet {id bid} : Footprint (.fetchBinding id bid) (.getBinding bid id)
  | pollGet {id bid} : Footprint (.bindingLastOperation id bid) (.getBinding bid id)

inductive Payload.Footprint (settings : Settings) (queue : QueueName) (receipt : ExecutionName)
    (payload : Payload) : Call → Prop where
  | getInstance {id} (op : payload.op = some .update) (member : payload.instanceId = some id) :
      Footprint settings queue receipt payload (.getInstance id)
  | putObject {id} (op : payload.op = some .provision ∨ payload.op = some .update)
      (member : payload.instanceId = some id) (document) :
      Footprint settings queue receipt payload (.putObject (settings.artifactKey id) document)
  | updateInstance {id} (op : payload.op = some .provision ∨ payload.op = some .update)
      (member : payload.instanceId = some id) (u) :
      Footprint settings queue receipt payload (.updateInstance id u)
  | deleteObject {id} (op : payload.op = some .deprovision)
      (member : payload.instanceId = some id) :
      Footprint settings queue receipt payload (.deleteObject (settings.artifactKey id))
  | deleteInstance {id} (op : payload.op = some .deprovision)
      (member : payload.instanceId = some id) :
      Footprint settings queue receipt payload (.deleteInstance id)
  | updateBinding {id} (op : payload.op = some .bind) (member : payload.instanceId = some id)
      (bid u) : Footprint settings queue receipt payload (.updateBinding bid id u)
  | deleteMessage : Footprint settings queue receipt payload (.deleteMessage queue receipt)

variable {P : Call → Prop}

theorem InstanceStore.calls_get {id : String} (h : P (.getInstance id)) :
    (InstanceStore.get id).Calls P := by
  refine calls_bind (calls_invoke h) ?_
  intro item
  cases item with
  | none => trivial
  | some item => exact calls_ofExcept _

theorem InstanceStore.calls_getOrNone {id : String} (h : P (.getInstance id)) :
    (InstanceStore.getOrNone id).Calls P := by
  refine calls_bind (calls_attempt (calls_get h)) ?_
  intro result
  split <;> trivial

theorem InstanceStore.calls_create {now id service plan : String} {parameters context : Dict}
    (h : P (.putInstance id (newItem now service plan parameters context))) :
    (InstanceStore.create now id service plan parameters context).Calls P := by
  refine calls_bind (calls_attempt (calls_invoke h)) ?_
  intro result
  split
  · trivial
  · trivial
  · exact calls_ofExcept _

theorem BindingStore.calls_get {bid id : String} (h : P (.getBinding bid id)) :
    (BindingStore.get bid id).Calls P := by
  refine calls_bind (calls_invoke h) ?_
  intro item
  cases item with
  | none => trivial
  | some item => exact calls_ofExcept _

theorem BindingStore.calls_getOrNone {bid id : String} (h : P (.getBinding bid id)) :
    (BindingStore.getOrNone bid id).Calls P := by
  refine calls_bind (calls_attempt (calls_get h)) ?_
  intro result
  split <;> trivial

theorem BindingStore.calls_create {now bid id service plan : String} {parameters : Dict}
    (h : P (.putBinding bid id (newItem now service plan parameters))) :
    (BindingStore.create now bid id service plan parameters).Calls P := by
  refine calls_bind (calls_attempt (calls_invoke h)) ?_
  intro result
  split
  · trivial
  · trivial
  · exact calls_ofExcept _

/-! ## The routes -/

theorem calls_respond {status : Nat} {route : Handler Body} (h : route.Calls P) :
    (respond status route).Calls P := by
  refine calls_bind (calls_attempt h) ?_
  intro result
  split <;> trivial

theorem calls_provisionInstance {now id : String} {payload : ProvisionRequest}
    {incomplete : Bool} (get : P (.getInstance id))
    (put : P (.putInstance id (InstanceStore.newItem now payload.serviceId payload.planId
      payload.parameters payload.context)))
    (send : P (.sendMessage .provision (.provision id payload))) :
    (provisionInstance now id payload incomplete).Calls P := by
  unfold provisionInstance
  split
  · trivial
  · refine calls_bind (InstanceStore.calls_getOrNone get) ?_
    intro existing
    cases existing with
    | some existing =>
        dsimp only
        split <;> trivial
    | none =>
        refine calls_bind (InstanceStore.calls_create put) fun _ => ?_
        exact calls_bind (calls_invoke send) fun _ => trivial

theorem calls_updateInstance {now id : String} {payload : UpdateRequest} {incomplete : Bool}
    (get : P (.getInstance id)) (transition : ∀ u, P (.updateInstance id u))
    (send : ∀ plan parameters,
      P (.sendMessage .provision (.update id payload.serviceId plan parameters))) :
    (updateInstance now id payload incomplete).Calls P := by
  unfold updateInstance
  split
  · trivial
  · refine calls_bind (InstanceStore.calls_get get) ?_
    intro inst
    refine calls_bind (calls_invoke (transition _)) fun _ => ?_
    exact calls_bind (calls_invoke (send _ _)) fun _ => trivial

theorem calls_deprovisionInstance {now id service plan : String} {incomplete : Bool}
    (get : P (.getInstance id))
    (transition : ∀ u, u.parameters = none → P (.updateInstance id u))
    (send : P (.sendMessage .provision (.deprovision id))) :
    (deprovisionInstance now id service plan incomplete).Calls P := by
  unfold deprovisionInstance
  split
  · trivial
  · refine calls_bind (InstanceStore.calls_get get) ?_
    intro inst
    split
    · trivial
    · refine calls_bind (calls_invoke (transition _ rfl)) fun _ => ?_
      exact calls_bind (calls_invoke send) fun _ => trivial

theorem calls_bindInstance {now id bid : String} {payload : BindRequest}
    (get : P (.getInstance id)) (getBinding : P (.getBinding bid id))
    (put : P (.putBinding bid id (BindingStore.newItem now payload.serviceId payload.planId
      payload.parameters)))
    (send : P (.sendMessage .binding (.bind id bid payload))) :
    (bindInstance now id bid payload).Calls P := by
  refine calls_bind (InstanceStore.calls_get get) ?_
  intro inst
  split
  · trivial
  · refine calls_bind (BindingStore.calls_getOrNone getBinding) ?_
    intro existing
    split
    · trivial
    · refine calls_bind (BindingStore.calls_create put) fun _ => ?_
      exact calls_bind (calls_invoke send) fun _ => trivial

theorem calls_unbindInstance (id bid service plan : String) :
    (unbindInstance id bid service plan).Calls (Request.unbind id bid service plan).Footprint := by
  refine calls_bind (BindingStore.calls_get .unbindGet) ?_
  intro binding
  split
  · trivial
  · refine calls_bind (calls_invoke .sendUnbind) fun _ => ?_
    exact calls_bind (calls_invoke .unbindDelete) fun _ => trivial

theorem calls_app (now : String) (request : Request) :
    (app now request).Calls request.Footprint := by
  cases request with
  | provision id payload incomplete =>
      by_cases valid : validInstanceId id
      · rw [app, if_pos valid]
        refine calls_respond (calls_provisionInstance ?_ (.putInstance _) .sendProvision)
        exact .getInstance (.provision id payload incomplete)
      · rw [app, if_neg valid]
        trivial
  | update id payload incomplete =>
      refine calls_respond (calls_updateInstance ?_ .queueUpdate .sendUpdate)
      exact .getInstance (.update id payload incomplete)
  | deprovision id service plan incomplete =>
      refine calls_respond (calls_deprovisionInstance ?_ (fun u _ => .queueDeprovision u)
        .sendDeprovision)
      exact .getInstance (.deprovision id service plan incomplete)
  | fetchInstance id =>
      refine calls_respond (calls_bind (InstanceStore.calls_get ?_) fun _ => trivial)
      exact .getInstance (.fetchInstance id)
  | instanceLastOperation id =>
      refine calls_respond (calls_bind (InstanceStore.calls_get ?_) fun _ => trivial)
      exact .getInstance (.instanceLastOperation id)
  | bind id bid payload =>
      refine calls_respond (calls_bindInstance ?_ .bindGet (.bindPut _) .sendBind)
      exact .getInstance (.bind id bid payload)
  | unbind id bid service plan => exact calls_respond (calls_unbindInstance id bid service plan)
  | fetchBinding id bid =>
      exact calls_respond (calls_bind (BindingStore.calls_get .fetchGet) fun _ => trivial)
  | bindingLastOperation id bid =>
      refine calls_respond (calls_bind (calls_attempt (BindingStore.calls_get .pollGet)) ?_)
      intro result
      split <;> trivial

/-! ## The worker -/

section Worker
variable {settings : Settings} {queue : QueueName} {receipt : ExecutionName} {payload : Payload}

theorem calls_subscript {α β : Type} {key : String} {member : Option α} {f : α → Handler β}
    (h : ∀ a, member = some a → (f a).Calls P) : (Worker.subscript key member >>= f).Calls P := by
  cases member with
  | none => trivial
  | some a => exact h a rfl

theorem calls_ofExcept_bind {α β : Type} {x : Except Exn α} {f : α → Handler β}
    (h : ∀ a, (f a).Calls P) : ((ofExcept x : Handler α) >>= f).Calls P :=
  calls_bind (calls_ofExcept x) h

theorem calls_write {id : String} {document : Value}
    (put : P (.putObject (settings.artifactKey id) document)) :
    (ArtifactStore.write settings id document).Calls P :=
  calls_bind (calls_invoke put) fun _ => trivial

theorem calls_provision {now : String}
    (put : ∀ id document, payload.instanceId = some id →
      P (.putObject (settings.artifactKey id) document))
    (transition : ∀ id u, payload.instanceId = some id → u.parameters = none →
      P (.updateInstance id u)) :
    (Worker.provision settings now payload).Calls P := by
  refine calls_subscript fun id member => ?_
  refine calls_subscript fun _ _ => calls_subscript fun _ _ => calls_ofExcept_bind fun _ => ?_
  refine calls_bind (calls_write (put id _ member)) fun key => ?_
  exact calls_invoke (transition id _ member rfl)

theorem calls_update {now : String}
    (get : ∀ id, payload.instanceId = some id → P (.getInstance id))
    (put : ∀ id document, payload.instanceId = some id →
      P (.putObject (settings.artifactKey id) document))
    (transition : ∀ id u, payload.instanceId = some id → u.parameters = payload.parameters →
      P (.updateInstance id u)) :
    (Worker.update settings now payload).Calls P := by
  refine calls_subscript fun id member => ?_
  refine calls_bind (calls_attempt (InstanceStore.calls_get (get id member))) fun _ => ?_
  split
  · trivial
  · trivial
  · refine calls_ofExcept_bind fun _ => ?_
    refine calls_bind (calls_write (put id _ member)) fun key => ?_
    exact calls_invoke (transition id _ member rfl)

theorem calls_dispatch (draws : Draws) :
    (Worker.dispatch settings draws payload).Calls (payload.Footprint settings queue receipt) := by
  unfold Worker.dispatch
  split
  next op =>
    exact calls_provision (fun id document member => .putObject (.inl op) member document)
      fun id u member _ => .updateInstance (.inl op) member u
  next op =>
    exact calls_update (fun id member => .getInstance op member)
      (fun id document member => .putObject (.inr op) member document)
      fun id u member _ => .updateInstance (.inr op) member u
  next op =>
    refine calls_subscript fun id member => ?_
    exact calls_bind (calls_invoke (.deleteObject op member)) fun _ =>
      calls_invoke (.deleteInstance op member)
  next op =>
    refine calls_subscript fun id member => calls_subscript fun bid _ => ?_
    exact calls_invoke (.updateBinding op member bid _)
  next => exact calls_subscript fun _ _ => trivial
  next => trivial

theorem calls_handle (draws : Draws) :
    (Worker.handle settings queue draws ⟨receipt, .object payload⟩).Calls
      (payload.Footprint settings queue receipt) := by
  refine calls_bind (calls_attempt (calls_dispatch draws)) fun result => ?_
  cases result with
  | error e => trivial
  | ok _ => exact calls_invoke .deleteMessage

end Worker

end Regnant.Osb
