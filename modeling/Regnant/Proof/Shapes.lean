import Regnant.Osb.Interleaving
import Regnant.Proof.Transitions

/-!
# The shapes of programs

What follows what in the program of a request or of a handling: a request sends its message right
after it wrote the row and is accepted right after that; a handling that wrote the artifact writes
the row next, and one that deleted the artifact deletes the row next.
-/

namespace Regnant.Osb
open CallTree

def Request.Deprovisions : Request → Prop
  | .deprovision _ _ _ _ => True
  | _ => False

def Request.Announces (payload : Payload) : Request → Prop
  | .provision _ _ _ => True
  | .update _ _ _ => True
  | .deprovision id _ _ _ => payload = .deprovision id
  | _ => False

def Request.Node (asked : Request) : (c : Call) → (Except Exn c.Result → Handler Response) → Prop
  | .putInstance _ _, k => ¬asked.Deprovisions ∧
      ∃ payload, (k (.ok ())).next = some (.sendMessage .provision payload)
  | .updateInstance _ _, k => ∃ payload, (k (.ok ())).next = some (.sendMessage .provision payload)
  | .sendMessage .provision payload, k =>
      ∃ response, k (.ok ()) = .ret response ∧ response.accepted ∧ asked.Announces payload
  | .deleteInstance _, _ => False
  | .putObject _ _, _ => False
  | .deleteObject _, _ => False
  | _, k => asked.Deprovisions → ∀ r response, k r = .ret response → ¬response.accepted

variable {asked : Request} {id now : String} {α : Type} {status : Nat}
  {P : (c : Call) → (Except Exn c.Result → Handler Response) → Prop}

theorem respond_raise (status : Nat) (e : Exn) :
    ∃ response, respond status (.raise e) = .ret response ∧ ¬response.accepted := by
  cases e with
  | osb e =>
      refine ⟨_, rfl, ?_⟩
      obtain ⟨kind, message⟩ := e
      cases kind <;> simp [Response.accepted, OsbErrorKind.statusCode]
  | _ => exact ⟨_, rfl, by simp [Response.accepted]⟩

theorem rejected_of_raise {e : Exn} {response : Response}
    (same : respond status (.raise e) = .ret response) : ¬response.accepted := by
  obtain ⟨response', same', rejected⟩ := respond_raise status e
  exact CallTree.ret.inj (same'.symm.trans same) ▸ rejected

theorem ended_cases {t : Handler α} (ended : t.next = none) :
    (∃ a, t = .ret a) ∨ ∃ e, t = .raise e := by
  cases t with
  | ret a => exact .inl ⟨a, rfl⟩
  | raise e => exact .inr ⟨e, rfl⟩
  | call c k => cases ended

theorem next_bind_none {β : Type} {t : Handler α} {f : α → Handler β} (ended : t.next = none)
    (ends : ∀ a, (f a).next = none) : (t >>= f).next = none := by
  obtain ⟨a, rfl⟩ | ⟨e, rfl⟩ := ended_cases ended
  · exact ends a
  · rfl

theorem next_attempt_none {t : Handler α} (ended : t.next = none) : t.attempt.next = none := by
  obtain ⟨a, rfl⟩ | ⟨e, rfl⟩ := ended_cases ended <;> rfl

def Single (c : Call) (t : Handler α) : Prop :=
  ∃ k, t = .call c k ∧ ∀ r, (k r).next = none

theorem single_invoke (c : Call) : Single c (invoke c) :=
  ⟨CallTree.ofExcept, rfl, fun r => by cases r <;> rfl⟩

theorem Single.bind {β : Type} {c : Call} {t : Handler α} {f : α → Handler β} (single : Single c t)
    (ends : ∀ a, (f a).next = none) : Single c (t >>= f) := by
  obtain ⟨k, rfl, ended⟩ := single
  exact ⟨fun r => k r >>= f, rfl, fun r => next_bind_none (ended r) ends⟩

theorem Single.attempt {c : Call} {t : Handler α} (single : Single c t) : Single c t.attempt := by
  obtain ⟨k, rfl, ended⟩ := single
  exact ⟨fun r => (k r).attempt, rfl, fun r => next_attempt_none (ended r)⟩

theorem InstanceStore.single_get (id : String) : Single (.getInstance id) (get id) := by
  refine (single_invoke _).bind fun row => ?_
  cases row with
  | none => rfl
  | some item => cases h : instanceFromItem id item <;> simp [h, CallTree.next]

theorem InstanceStore.single_getOrNone (id : String) : Single (.getInstance id) (getOrNone id) := by
  refine (single_get id).attempt.bind fun result => ?_
  split <;> rfl

theorem BindingStore.single_get (bid id : String) : Single (.getBinding bid id) (get bid id) := by
  refine (single_invoke _).bind fun row => ?_
  cases row with
  | none => rfl
  | some item => cases h : bindingFromItem bid id item <;> simp [h, CallTree.next]

theorem BindingStore.single_getOrNone (bid id : String) :
    Single (.getBinding bid id) (getOrNone bid id) := by
  refine (single_get bid id).attempt.bind fun result => ?_
  split <;> rfl

/-! ## The programs of requests -/

theorem every_raise (status : Nat) (e : Exn) : (respond status (.raise e)).Every P := by
  obtain ⟨response, same, -⟩ := respond_raise status e
  rw [same]
  trivial

theorem every_single {c : Call} {t : Handler α} {f : α → Handler Body} (single : Single c t)
    (node : ∀ k : Except Exn c.Result → Handler α, (∀ r, (k r).next = none) →
      P c fun r => respond status (k r >>= f))
    (rest : ∀ a, (respond status (f a)).Every P) : (respond status (t >>= f)).Every P := by
  obtain ⟨k, rfl, ended⟩ := single
  refine ⟨node k ended, fun r => ?_⟩
  show (respond status (k r >>= f)).Every P
  obtain ⟨a, read⟩ | ⟨e, read⟩ := ended_cases (ended r)
  · rw [read]
    exact rest a
  · rw [read]
    exact every_raise status e

theorem every_send {payload : Payload} {body : Body} (ok : 200 ≤ status ∧ status < 300)
    (announces : asked.Announces payload) :
    (respond status (do TaskQueue.send .provision payload; return body)).Every asked.Node := by
  refine ⟨⟨⟨status, body⟩, rfl, ok, announces⟩, fun r => ?_⟩
  rcases r with e | _
  · exact every_raise status e
  · trivial

theorem every_transition {u : InstanceUpdate} {payload : Payload} {body : Body}
    (ok : 200 ≤ status ∧ status < 300) (announces : asked.Announces payload) :
    (respond status (do
      InstanceStore.transition id u
      TaskQueue.send .provision payload
      return body)).Every asked.Node := by
  refine ⟨⟨payload, rfl⟩, fun r => ?_⟩
  rcases r with e | _
  · exact every_raise status e
  · exact every_send ok announces

theorem every_create {payload : ProvisionRequest} {incomplete : Bool} {body : Body} :
    (respond 202 (do
      let _ ← InstanceStore.create now id payload.serviceId payload.planId payload.parameters
        payload.context
      TaskQueue.send .provision (.provision id payload)
      return body)).Every (Request.provision id payload incomplete).Node := by
  refine ⟨⟨not_false, .provision id payload, rfl⟩, fun r => ?_⟩
  rcases r with e | _
  · cases e <;> exact True.intro
  · exact every_send ⟨by simp, by simp⟩ trivial

theorem every_provision (payload : ProvisionRequest) (incomplete : Bool) :
    (app now (.provision id payload incomplete)).Every
      (Request.provision id payload incomplete).Node := by
  rw [app]
  split
  · unfold provisionInstance
    split
    · exact every_raise 202 _
    · refine every_single (InstanceStore.single_getOrNone id)
        (fun _ _ deprovisions => deprovisions.elim) fun existing => ?_
      cases existing with
      | some existing =>
          dsimp only
          split
          · trivial
          · exact every_raise 202 _
      | none => exact every_create
  · trivial

theorem every_update (payload : UpdateRequest) (incomplete : Bool) :
    (app now (.update id payload incomplete)).Every
      (Request.update id payload incomplete).Node := by
  rw [app, updateInstance]
  split
  · exact every_raise 202 _
  · exact every_single (InstanceStore.single_get id) (fun _ _ deprovisions => deprovisions.elim)
      fun inst => every_transition ⟨by simp, by simp⟩ trivial

theorem every_deprovision (service plan : String) (incomplete : Bool) :
    (app now (.deprovision id service plan incomplete)).Every
      (Request.deprovision id service plan incomplete).Node := by
  rw [app, deprovisionInstance]
  split
  · exact every_raise 200 _
  · refine every_single (InstanceStore.single_get id) (fun k ended _ r response same => ?_)
      fun inst => ?_
    · -- after its first call a DELETE has still two calls to make or is rejected
      dsimp only at same
      obtain ⟨inst, read⟩ | ⟨e, read⟩ := ended_cases (ended r)
      · rw [read, ret_bind] at same
        split at same
        · exact rejected_of_raise same
        · cases same
      · rw [read] at same
        exact rejected_of_raise same
    · split
      · exact every_raise 200 _
      · exact every_transition ⟨by simp, by simp⟩ rfl

theorem Call.OnBindings.node {c : Call} (on : c.OnBindings) (quiet : ¬asked.MutatesInstance)
    (k : Except Exn c.Result → Handler Response) : asked.Node c k := by
  have keeps : ¬asked.Deprovisions := by
    cases asked <;> first | exact id | exact fun _ => quiet trivial
  cases c with
  | sendMessage queue payload =>
      cases queue with
      | provision => exact on.elim
      | binding => exact fun deprovisions => (keeps deprovisions).elim
  | putInstance => exact on.elim
  | updateInstance => exact on.elim
  | deleteInstance => exact on.elim
  | putObject => exact on.elim
  | deleteObject => exact on.elim
  | _ => exact fun deprovisions => (keeps deprovisions).elim

theorem every_app (now : String) (asked : Request) : (app now asked).Every asked.Node := by
  have quiet (quiet : ¬asked.MutatesInstance) : (app now asked).Every asked.Node :=
    Every.mono (calls_app now asked) fun c k c_in => (c_in.onBindings quiet).node quiet k
  cases asked with
  | provision id payload incomplete => exact every_provision payload incomplete
  | update id payload incomplete => exact every_update payload incomplete
  | deprovision id service plan incomplete => exact every_deprovision service plan incomplete
  | _ => exact quiet id

/-! ## The programs of handlings -/

def HandlingNode (settings : Settings) : (c : Call) → (Except Exn c.Result → Handler Unit) → Prop
  | .putObject key _, k =>
      ∃ id u, key = settings.artifactKey id ∧ (k (.ok ())).next = some (.updateInstance id u)
  | .deleteObject key, k =>
      ∃ id, key = settings.artifactKey id ∧ (k (.ok ())).next = some (.deleteInstance id)
  | .putInstance _ _, _ => False
  | .sendMessage _ _, _ => False
  | _, k => ∀ r id, (k r).next ≠ some (.deleteInstance id)

structure HandlingShape (settings : Settings) (rest : Handler Unit) : Prop where
  every : rest.Every (HandlingNode settings)
  next : ∀ id, rest.next ≠ some (.deleteInstance id)

def acknowledging (queue : QueueName) (receipt : ExecutionName) (t : Handler Unit) :
    Handler Unit := do
  match ← t.attempt with
  | .error _ => return ()
  | .ok () => TaskQueue.delete queue receipt

variable {settings : Settings} {queue : QueueName} {receipt : ExecutionName}

theorem HandlingShape.raise (e : Exn) :
    HandlingShape settings (acknowledging queue receipt (.raise e)) :=
  ⟨trivial, fun _ same => by cases same⟩

theorem HandlingShape.delete : HandlingShape settings (TaskQueue.delete queue receipt) := by
  refine ⟨⟨fun r id => ?_, fun r => ?_⟩, fun _ same => by cases same⟩
  · cases r <;> exact fun same => by cases same
  · cases r <;> trivial

theorem shape_publish (id : String) (document : Value) (u : String → InstanceUpdate) :
    HandlingShape settings (acknowledging queue receipt (do
      let key ← ArtifactStore.write settings id document
      InstanceStore.transition id (u key))) := by
  refine ⟨⟨⟨id, _, rfl, rfl⟩, fun r => ?_⟩, fun _ same => by cases same⟩
  rcases r with e | _
  · trivial
  · refine ⟨fun r id' => ?_, fun r => ?_⟩
    · cases r <;> exact fun same => by cases same
    · rcases r with e | _
      · trivial
      · exact HandlingShape.delete.every

theorem shape_get {id : String} {t : Handler α} {f : α → Handler Unit}
    (single : Single (.getInstance id) t)
    (rest : ∀ a, HandlingShape settings (acknowledging queue receipt (f a))) :
    HandlingShape settings (acknowledging queue receipt (t >>= f)) := by
  obtain ⟨k, rfl, ended⟩ := single
  have after (r) : HandlingShape settings (acknowledging queue receipt (k r >>= f)) := by
    obtain ⟨a, read⟩ | ⟨e, read⟩ := ended_cases (ended r)
    · rw [read]
      exact rest a
    · rw [read]
      exact .raise e
  exact ⟨⟨fun r => (after r).next, fun r => (after r).every⟩, fun _ same => by cases same⟩

theorem shape_provision (draws : Draws) (id : String) (payload : ProvisionRequest) :
    HandlingShape settings
      (Worker.handle settings queue draws ⟨receipt, .object (.provision id payload)⟩) := by
  have program : Worker.handle settings queue draws ⟨receipt, .object (.provision id payload)⟩ =
      acknowledging queue receipt (do
        let document ← CallTree.ofExcept
          (renderResources id payload.serviceId payload.planId payload.parameters)
        let key ← ArtifactStore.write settings id document
        InstanceStore.transition id
          { provisioned settings draws.now id with artifactKey := key }) := rfl
  rw [program]
  cases renderResources id payload.serviceId payload.planId payload.parameters with
  | error e => exact .raise e
  | ok document => exact shape_publish id document _

theorem update_program (now id service plan : String) (parameters : Dict) :
    Worker.update settings now (.update id service plan parameters) = (do
      match ← (InstanceStore.get id).attempt with
      | .error (.osb ⟨.instanceNotFound, _⟩) => return ()
      | .error e => .raise e
      | .ok _ =>
          let document ← CallTree.ofExcept (renderResources id service plan parameters)
          let key ← ArtifactStore.write settings id document
          InstanceStore.transition id
            { updated settings now id plan parameters with artifactKey := key }) :=
  rfl

theorem shape_update (draws : Draws) (id service plan : String) (parameters : Dict) :
    HandlingShape settings
      (Worker.handle settings queue draws
        ⟨receipt, .object (.update id service plan parameters)⟩) := by
  have program : Worker.handle settings queue draws
      ⟨receipt, .object (.update id service plan parameters)⟩ =
      acknowledging queue receipt
        (Worker.update settings draws.now (.update id service plan parameters)) := rfl
  rw [program, update_program]
  refine shape_get (InstanceStore.single_get id).attempt fun result => ?_
  split
  · exact .delete
  · exact .raise _
  · cases renderResources id service plan parameters with
    | error e => exact .raise e
    | ok document => exact shape_publish id document _

theorem shape_deprovision (draws : Draws) (id : String) :
    HandlingShape settings
      (Worker.handle settings queue draws ⟨receipt, .object (.deprovision id)⟩) := by
  refine ⟨⟨⟨id, rfl, rfl⟩, fun r => ?_⟩, fun _ same => by cases same⟩
  rcases r with e | _
  · trivial
  · refine ⟨fun r id' => ?_, fun r => ?_⟩
    · cases r <;> exact fun same => by cases same
    · rcases r with e | _
      · trivial
      · exact HandlingShape.delete.every

theorem shape_bind (draws : Draws) (id bid : String) (payload : BindRequest) :
    HandlingShape settings
      (Worker.handle settings queue draws ⟨receipt, .object (.bind id bid payload)⟩) := by
  refine ⟨⟨fun r id' => ?_, fun r => ?_⟩, fun _ same => by cases same⟩
  · cases r <;> exact fun same => by cases same
  · rcases r with e | _
    · trivial
    · exact HandlingShape.delete.every

theorem shape_unbind (draws : Draws) (id bid : String) :
    HandlingShape settings
      (Worker.handle settings queue draws ⟨receipt, .object (.unbind id bid)⟩) :=
  HandlingShape.delete

theorem shape_handle {payload : Payload} (task : payload.IsInstanceTask ∨ payload.IsBindingTask)
    (draws : Draws) :
    HandlingShape settings (Worker.handle settings queue draws ⟨receipt, .object payload⟩) := by
  rcases task with task | task
  · cases task with
    | provision id payload => exact shape_provision draws id payload
    | update id service plan parameters => exact shape_update draws id service plan parameters
    | deprovision id => exact shape_deprovision draws id
  · cases task with
    | bind id bid payload => exact shape_bind draws id bid payload
    | unbind id bid => exact shape_unbind draws id bid

theorem app_ret {response : Response} (ended : app now asked = .ret response) :
    ¬response.accepted := by
  cases asked with
  | provision id payload incomplete =>
      rw [app] at ended
      split at ended
      · rw [provisionInstance] at ended
        split at ended
        · exact rejected_of_raise ended
        · cases ended
      · obtain rfl := CallTree.ret.inj ended
        simp [Response.accepted]
  | update id payload incomplete =>
      rw [app, updateInstance] at ended
      split at ended
      · exact rejected_of_raise ended
      · cases ended
  | deprovision id service plan incomplete =>
      rw [app, deprovisionInstance] at ended
      split at ended
      · exact rejected_of_raise ended
      · cases ended
  | _ => cases ended

end Regnant.Osb
