import Regnant.Lib.Lockstep
import Regnant.Lib.Machine
import Regnant.Osb.Interleaving
import Regnant.Proof.Calls
import Regnant.Proof.Creation

namespace Regnant.Osb
open CallTree

def Credentials.masked (c : Credentials) : Credentials :=
  { c with password := c.password.map fun _ => "" }

def BindingItem.masked (item : BindingItem) : BindingItem :=
  { item with credentials := item.credentials.map Credentials.masked }

def Binding.masked (binding : Binding) : Binding :=
  { binding with credentials := binding.credentials.masked }

def BindingUpdate.masked (u : BindingUpdate) : BindingUpdate :=
  { u with credentials := u.credentials.masked }

def BindCredentials.masked (c : BindCredentials) : BindCredentials :=
  { c with password := "" }

def Body.masked : Body → Body
  | .bind credentials => .bind credentials.masked
  | .fetchBinding credentials parameters =>
      .fetchBinding (credentials.map BindCredentials.masked) parameters
  | body => body

def Response.masked (r : Response) : Response :=
  { r with body := r.body.masked }

def Request.discloses : Request → Option (String × String)
  | .bind id bid _ => some (bid, id)
  | .fetchBinding id bid => some (bid, id)
  | _ => none

variable {pair key : String × String} {settings : Settings} {queue : QueueName}
  {id bid now : String} {self : ExecutionName} {c c' : Call} {w w' : Aws} {asked : Request}
  {m : Message} {draws draws' : Draws}

def SameRow (pair key : String × String) (row row' : Option BindingItem) : Prop :=
  row.map BindingItem.masked = row'.map BindingItem.masked ∧ (key = pair → row = row')

inductive Call.SameBut (pair : String × String) : Call → Call → Prop where
  | same (c : Call) : SameBut pair c c
  | complete {bid id u u'} (other : (bid, id) ≠ pair) (masked : u.masked = u'.masked) :
      SameBut pair (.updateBinding bid id u) (.updateBinding bid id u')

inductive SameReply (pair : String × String) :
    (c c' : Call) → Except Exn c.Result → Except Exn c'.Result → Prop where
  | error (c c' : Call) (e : Exn) : SameReply pair c c' (.error e) (.error e)
  | row {bid id row row'} (same : SameRow pair (bid, id) row row') :
      SameReply pair (.getBinding bid id) (.getBinding bid id) (.ok row) (.ok row')
  | value (c : Call) (a : c.Result) (unread : ∀ bid id, c ≠ .getBinding bid id) :
      SameReply pair c c (.ok a) (.ok a)
  | done (bid id : String) (u u' : BindingUpdate) :
      SameReply pair (.updateBinding bid id u) (.updateBinding bid id u') (.ok ()) (.ok ())

structure Aws.SameBut (pair : String × String) (w w' : Aws) : Prop where
  instances : w.instances = w'.instances
  bucket : w.bucket = w'.bucket
  provisionTasks : w.provisionTasks = w'.provisionTasks
  bindingTasks : w.bindingTasks = w'.bindingTasks
  deleted : w.deleted = w'.deleted
  bindings : ∀ key, SameRow pair key (w.bindings key) (w'.bindings key)

def Response.SameBut (pair : String × String) (asked : Request) (r r' : Response) : Prop :=
  r.masked = r'.masked ∧ (asked.discloses = some pair ∨ asked.discloses = none → r = r')

def Answer.SameBut (pair : String × String) (a a' : Answer) : Prop :=
  a.request = a'.request ∧ a.response.SameBut pair a.request a'.response

theorem SameRow.refl (pair key : String × String) (row : Option BindingItem) :
    SameRow pair key row row :=
  ⟨rfl, fun _ => rfl⟩

theorem SameRow.isNone {row row' : Option BindingItem} (same : SameRow pair key row row') :
    row = none ↔ row' = none := by
  have masked := same.1
  cases row <;> cases row' <;> simp_all

theorem masked_apply {u u' : BindingUpdate} (masked : u.masked = u'.masked)
    {item item' : BindingItem} (same : item.masked = item'.masked) :
    (u.apply item).masked = (u'.apply item').masked := by
  simp_all [BindingUpdate.masked, BindingUpdate.apply, BindingItem.masked]

theorem sameRow_update {u u' : BindingUpdate} {row row' : Option BindingItem}
    (same : SameRow pair key row row') (masked : u.masked = u'.masked)
    (own : key = pair → u = u') :
    SameRow pair key (some (u.apply (row.getD {}))) (some (u'.apply (row'.getD {}))) := by
  refine ⟨congrArg some (masked_apply masked ?_), fun here => ?_⟩
  · have rows := same.1
    cases row <;> cases row' <;> simp_all
  · rw [own here, same.2 here]

theorem Aws.SameBut.setBinding (same : w.SameBut pair w') {at' : String × String}
    {row row' : Option BindingItem} (rows : SameRow pair at' row row') :
    ∀ key, SameRow pair key (Function.update w.bindings at' row key)
      (Function.update w'.bindings at' row' key) := by
  intro key
  by_cases here : key = at'
  · subst here
    rwa [Function.update_self, Function.update_self]
  · rw [Function.update_of_ne here, Function.update_of_ne here]
    exact same.bindings key

theorem perform_sameBut (self : ExecutionName) (calls : c.SameBut pair c')
    (same : w.SameBut pair w') :
    SameReply pair c c' (perform self c w).1 (perform self c' w').1 ∧
      (perform self c w).2.SameBut pair (perform self c' w').2 := by
  have set (key : String × String) (row row' : Option BindingItem)
      (rows : SameRow pair key row row') := same.setBinding rows
  obtain ⟨instances, bindings, bucket, provisionTasks, bindingTasks, deleted⟩ := w
  obtain ⟨rfl, rfl, rfl, rfl, rfl, rows⟩ := same
  cases calls with
  | @complete bid id u u' other masked =>
      exact ⟨.done _ _ _ _, rfl, rfl, rfl, rfl, rfl,
        set _ _ _ (sameRow_update (rows _) masked fun own => absurd own other)⟩
  | same =>
      cases c with
      | getBinding bid id => exact ⟨.row (rows _), rfl, rfl, rfl, rfl, rfl, rows⟩
      | putBinding bid id item =>
          have absent := (rows (bid, id)).isNone
          simp only [perform]
          cases row : bindings (bid, id) with
          | none =>
              rw [absent.mp row]
              exact ⟨.value _ _ (by simp), rfl, rfl, rfl, rfl, rfl, set _ _ _ (.refl _ _ _)⟩
          | some _ =>
              obtain ⟨_, row'⟩ := Option.ne_none_iff_exists'.mp (mt absent.mpr (by simp [row]))
              rw [row']
              exact ⟨.error _ _ _, rfl, rfl, rfl, rfl, rfl, rows⟩
      | updateBinding bid id u =>
          exact ⟨.value _ _ (by simp), rfl, rfl, rfl, rfl, rfl,
            set _ _ _ (sameRow_update (rows _) rfl fun _ => rfl)⟩
      | deleteBinding bid id =>
          exact ⟨.value _ _ (by simp), rfl, rfl, rfl, rfl, rfl, set _ _ _ (.refl _ _ _)⟩
      | putInstance id item =>
          simp only [perform]
          cases w'.instances id with
          | none => exact ⟨.value _ _ (by simp), rfl, rfl, rfl, rfl, rfl, rows⟩
          | some _ => exact ⟨.error _ _ _, rfl, rfl, rfl, rfl, rfl, rows⟩
      | sendMessage queue payload =>
          cases queue <;> exact ⟨.value _ _ (by simp), rfl, rfl, rfl, rfl, rfl, rows⟩
      | _ => exact ⟨.value _ _ (by simp), rfl, rfl, rfl, rfl, rfl, rows⟩

theorem outcome_sameBut (outcome : Outcome) (self : ExecutionName) (calls : c.SameBut pair c')
    (same : w.SameBut pair w') :
    SameReply pair c c' (outcome.perform self c w).1 (outcome.perform self c' w').1 ∧
      (outcome.perform self c w).2.SameBut pair (outcome.perform self c' w').2 := by
  cases outcome with
  | ok => exact perform_sameBut self calls same
  | fails effect =>
      cases effect with
      | true => exact ⟨.error _ _ _, (perform_sameBut self calls same).2⟩
      | false => exact ⟨.error _ _ _, same⟩

abbrev SameRun {α : Type} (pair : String × String) (P : α → α → Prop) :
    Handler α → Handler α → Prop :=
  Lockstep (Call.SameBut pair) (SameReply pair) P

theorem SameReply.eq {r r' : Except Exn c.Result} (replied : SameReply pair c c r r')
    (unread : ∀ bid id, c ≠ .getBinding bid id) : r = r' := by
  cases replied with
  | error => rfl
  | row => exact absurd rfl (unread _ _)
  | value => rfl
  | done => rfl

theorem SameReply.completed {u u' : BindingUpdate} {r r' : Except Exn Unit}
    (replied : SameReply pair (.updateBinding bid id u) (.updateBinding bid id u') r r') :
    r = r' := by
  cases replied <;> rfl

theorem sameRun_refl {α : Type} {t : Handler α} {P : α → α → Prop}
    (calls : t.Calls fun c => ∀ bid id, c ≠ .getBinding bid id) (refl : ∀ a, P a a) :
    SameRun pair P t t :=
  .refl calls (fun c _ => .same c) (fun _ _ _ unread replied => replied.eq unread) refl

theorem bindingFromItem_masked (bid id : String) (item : BindingItem) :
    bindingFromItem bid id item.masked = (bindingFromItem bid id item).map Binding.masked := by
  obtain ⟨service, plan, state, credentials, parameters, created, updated⟩ := item
  cases service <;> cases plan <;> cases state <;> cases created <;> cases updated <;>
    cases credentials <;> rfl

def SameBinding (pair key : String × String) (binding binding' : Binding) : Prop :=
  binding.masked = binding'.masked ∧ (key = pair → binding = binding')

theorem bindingFromItem_same {item item' : BindingItem} (masked : item.masked = item'.masked)
    (own : (bid, id) = pair → item = item') :
    Ended (SameBinding pair (bid, id)) (bindingFromItem bid id item)
      (bindingFromItem bid id item') := by
  have read := congrArg (bindingFromItem bid id) masked
  rw [bindingFromItem_masked, bindingFromItem_masked] at read
  have same (here : (bid, id) = pair) :
      bindingFromItem bid id item = bindingFromItem bid id item' := by rw [own here]
  cases first : bindingFromItem bid id item <;> cases second : bindingFromItem bid id item' <;>
    rw [first, second] at read same
  · exact Except.error.inj read
  · cases read
  · cases read
  · exact ⟨Except.ok.inj read, fun here => Except.ok.inj (same here)⟩

theorem BindingStore.sameRun_get (pair : String × String) (bid id : String) :
    SameRun pair (SameBinding pair (bid, id)) (get bid id) (get bid id) := by
  refine Lockstep.bind (P := SameRow pair (bid, id)) (.invoke (.same _) fun r r' replied => ?_)
    fun row row' same => ?_
  · cases replied with
    | error => rfl
    | row same => exact same
    | value _ _ unread => exact absurd rfl (unread _ _)
  · obtain ⟨masked, own⟩ := same
    cases row <;> cases row'
    · exact rfl
    · cases masked
    · cases masked
    · exact .ofExcept (bindingFromItem_same (Option.some.inj masked) fun here =>
        Option.some.inj (own here))

theorem BindingStore.sameRun_getOrNone (pair : String × String) (bid id : String) :
    SameRun pair (fun b b' => b.map Binding.masked = b'.map Binding.masked ∧
        ((bid, id) = pair → b = b')) (getOrNone bid id) (getOrNone bid id) := by
  refine (sameRun_get pair bid id).attempt.bind fun result result' ended => ?_
  cases result with
  | error e =>
      cases result' with
      | error e' =>
          obtain rfl : e = e' := ended
          cases e with
          | osb e =>
              obtain ⟨kind, message⟩ := e
              cases kind <;> first | exact rfl | exact ⟨rfl, fun _ => rfl⟩
          | _ => exact rfl
      | ok _ => exact ended.elim
  | ok binding =>
      cases result' with
      | error _ => exact ended.elim
      | ok binding' => exact ⟨congrArg some ended.1, fun here => congrArg some (ended.2 here)⟩

/-! ## The routes -/

theorem sameRun_respond {status : Nat} {route route' : Handler Body}
    {Q : Body → Body → Prop} (same : SameRun pair Q route route')
    (responses : ∀ body body', Q body body' →
      Response.SameBut pair asked ⟨status, body⟩ ⟨status, body'⟩) :
    SameRun pair (Response.SameBut pair asked) (respond status route) (respond status route') := by
  refine same.attempt.bind fun result result' ended => ?_
  cases result with
  | error e =>
      cases result' with
      | error e' =>
          obtain rfl : e = e' := ended
          cases e <;> exact ⟨rfl, fun _ => rfl⟩
      | ok _ => exact ended.elim
  | ok body =>
      cases result' with
      | error _ => exact ended.elim
      | ok body' => exact responses body body' ended

theorem ofStored_masked (c : Credentials) :
    (BindCredentials.ofStored c).masked = (BindCredentials.ofStored c.masked).masked := rfl

theorem masked_empty (c : Credentials) : c.masked = {} ↔ c = {} := by
  obtain ⟨uri, username, password, certificate⟩ := c
  simp [Credentials.masked]

theorem masked_fields {binding binding' : Binding} (masked : binding.masked = binding'.masked) :
    binding.serviceId = binding'.serviceId ∧ binding.planId = binding'.planId ∧
      binding.state = binding'.state ∧ binding.credentials.masked = binding'.credentials.masked ∧
      binding.parameters = binding'.parameters := by
  simp only [Binding.masked, Binding.mk.injEq] at masked
  tauto

theorem fetched_masked {binding binding' : Binding} (masked : binding.masked = binding'.masked) :
    (Body.fetchBinding (if binding.credentials = {} then none else
        some (.ofStored binding.credentials)) binding.parameters).masked =
      (Body.fetchBinding (if binding'.credentials = {} then none else
        some (.ofStored binding'.credentials)) binding'.parameters).masked := by
  obtain ⟨-, -, -, credentials, parameters⟩ := masked_fields masked
  have empty : binding.credentials = {} ↔ binding'.credentials = {} := by
    rw [← masked_empty, credentials, masked_empty]
  rw [parameters]
  by_cases none : binding.credentials = {}
  · rw [if_pos none, if_pos (empty.mp none)]
  · rw [if_neg none, if_neg (mt empty.mpr none)]
    simp only [Body.masked, Option.map_some]
    rw [ofStored_masked, credentials, ← ofStored_masked]

theorem sameRun_fetchBinding : SameRun pair (Response.SameBut pair (.fetchBinding id bid))
    (app now (.fetchBinding id bid)) (app now (.fetchBinding id bid)) := by
  refine sameRun_respond ((BindingStore.sameRun_get pair bid id).bind
    (Q := fun body body' => Body.masked body = body'.masked ∧ ((bid, id) = pair → body = body'))
    fun binding binding' same => ?_) ?_
  · exact ⟨fetched_masked same.1, fun here => by rw [same.2 here]⟩
  · rintro body body' ⟨masked, own⟩
    refine ⟨congrArg (Response.mk 200) masked, ?_⟩
    rintro (here | none)
    · rw [own (Option.some.inj here)]
    · cases none

theorem sameRun_unbind (service plan : String) :
    SameRun pair (Response.SameBut pair (.unbind id bid service plan))
      (app now (.unbind id bid service plan)) (app now (.unbind id bid service plan)) := by
  refine sameRun_respond (Q := Eq) ((BindingStore.sameRun_get pair bid id).bind
    fun binding binding' same => ?_) fun body body' same => by subst same; exact ⟨rfl, fun _ => rfl⟩
  obtain ⟨serviceId, planId, -⟩ := masked_fields same.1
  rw [serviceId, planId]
  refine sameRun_refl ?_ fun _ => rfl
  split
  · trivial
  · refine calls_bind (calls_invoke ?_) fun _ => calls_bind (calls_invoke ?_) fun _ => trivial
    · exact fun _ _ => by simp
    · exact fun _ _ => by simp

theorem sameRun_bindingLastOperation :
    SameRun pair (Response.SameBut pair (.bindingLastOperation id bid))
      (app now (.bindingLastOperation id bid)) (app now (.bindingLastOperation id bid)) := by
  refine sameRun_respond (Q := Eq) ((BindingStore.sameRun_get pair bid id).attempt.bind
    fun result result' ended => ?_) fun body body' same => by subst same; exact ⟨rfl, fun _ => rfl⟩
  cases result with
  | error e =>
      cases result' with
      | error e' =>
          obtain rfl : e = e' := ended
          cases e with
          | osb e =>
              obtain ⟨kind, message⟩ := e
              cases kind <;> exact rfl
          | _ => exact rfl
      | ok _ => exact ended.elim
  | ok binding =>
      cases result' with
      | error _ => exact ended.elim
      | ok binding' =>
          obtain ⟨-, -, state, -⟩ := masked_fields ended.1
          exact congrArg (fun state => Body.lastOperation state.operationState none) state

theorem sameRun_bind (payload : BindRequest) :
    SameRun pair (Response.SameBut pair (.bind id bid payload))
      (app now (.bind id bid payload)) (app now (.bind id bid payload)) := by
  refine sameRun_respond (Q := fun body body' =>
    Body.masked body = body'.masked ∧ ((bid, id) = pair → body = body')) ?_ ?_
  · refine Lockstep.bind (P := Eq) (sameRun_refl (InstanceStore.calls_get fun _ _ => by simp)
      fun _ => rfl) fun inst inst' same => ?_
    subst same
    by_cases bindable : inst.state.bindable
    · rw [if_neg (not_not.mpr bindable)]
      refine (BindingStore.sameRun_getOrNone pair bid id).bind fun existing existing' same => ?_
      have calls : (do
          let _ ← BindingStore.create now bid id payload.serviceId payload.planId payload.parameters
          TaskQueue.send .binding (.bind id bid payload)
          return Body.bind {
            uri := s!"https://{id}.internal.regnant.local"
            username := s!"binding-{bid}"
            password := "pending-rotation" } : Handler Body).Calls
          fun c => ∀ bid id, c ≠ .getBinding bid id := by
        refine calls_bind (BindingStore.calls_create fun _ _ => by simp) fun _ => ?_
        exact calls_bind (calls_invoke fun _ _ => by simp) fun _ => trivial
      cases existing with
      | none =>
          obtain rfl : existing' = none := by simpa using same.1.symm
          exact sameRun_refl calls fun body => ⟨rfl, fun _ => rfl⟩
      | some binding =>
          obtain ⟨binding', rfl⟩ : ∃ binding', existing' = some binding' := by
            cases existing' with
            | none => cases same.1
            | some binding' => exact ⟨binding', rfl⟩
          obtain ⟨serviceId, planId, -, credentials, -⟩ := masked_fields (Option.some.inj same.1)
          by_cases found : binding.serviceId = payload.serviceId ∧ binding.planId = payload.planId
          · have found' := found
            rw [serviceId, planId] at found'
            simp only [Option.filter_some, found, found', decide_true, if_true, and_self]
            refine ⟨?_, fun here => by rw [Option.some.inj (same.2 here)]⟩
            simp only [Body.masked]
            rw [ofStored_masked, credentials, ← ofStored_masked]
          · have found' := found
            rw [serviceId, planId] at found'
            simp only [Option.filter_some, found, found', decide_false, Bool.false_eq_true,
              if_false]
            exact sameRun_refl calls fun body => ⟨rfl, fun _ => rfl⟩
    · rw [if_pos bindable]
      exact rfl
  · rintro body body' ⟨masked, own⟩
    refine ⟨congrArg (Response.mk 201) masked, ?_⟩
    rintro (here | none)
    · rw [own (Option.some.inj here)]
    · cases none

theorem sameRun_app (pair : String × String) (now : String) (asked : Request) :
    SameRun pair (Response.SameBut pair asked) (app now asked) (app now asked) := by
  have unread (unread : ∀ c, asked.Footprint c → ∀ bid id, c ≠ .getBinding bid id) :
      SameRun pair (Response.SameBut pair asked) (app now asked) (app now asked) :=
    sameRun_refl ((calls_app now asked).mono unread) fun response => ⟨rfl, fun _ => rfl⟩
  cases asked with
  | bind id bid payload => exact sameRun_bind payload
  | unbind id bid service plan => exact sameRun_unbind service plan
  | fetchBinding id bid => exact sameRun_fetchBinding
  | bindingLastOperation id bid => exact sameRun_bindingLastOperation
  | _ => exact unread fun c c_in => by cases c_in <;> simp

/-! ## The worker -/

def Message.Binds (pair : String × String) (m : Message) : Prop :=
  ∃ payload, m.payload = some payload ∧ payload.op = some .bind ∧
    payload.bindingId = some pair.1 ∧ payload.instanceId = some pair.2

theorem dispatch_now {payload : Payload} (other : payload.op ≠ some .bind)
    (clock : draws.now = draws'.now) :
    Worker.dispatch settings draws payload = Worker.dispatch settings draws' payload := by
  unfold Worker.dispatch
  split <;> simp_all

theorem sameRun_complete {payload : Payload} (clock : draws.now = draws'.now)
    (secret : ∀ bid id, payload.bindingId = some bid → payload.instanceId = some id →
      (bid, id) = pair → draws = draws') :
    SameRun pair (fun _ _ => True) (Worker.bind draws payload) (Worker.bind draws' payload) := by
  unfold Worker.bind
  cases member : payload.instanceId with
  | none => exact rfl
  | some id =>
      cases member' : payload.bindingId with
      | none => exact rfl
      | some bid =>
          by_cases own : (bid, id) = pair
          · rw [secret bid id member' member own]
            exact sameRun_refl (calls_invoke fun _ _ => by simp) fun _ => trivial
          · refine ⟨.complete own ?_, fun r r' replied => ?_⟩
            · simp [BindingUpdate.masked, Credentials.masked, clock]
            · obtain rfl := replied.completed
              exact sameRun_refl (calls_ofExcept r) fun _ => trivial

theorem sameRun_handle (settings : Settings) (queue : QueueName) (m : Message)
    (clock : draws.now = draws'.now) (secret : m.Binds pair → draws = draws') :
    SameRun pair (fun _ _ => True) (Worker.handle settings queue draws m)
      (Worker.handle settings queue draws' m) := by
  obtain ⟨receipt, body⟩ := m
  cases body with
  | malformed text => exact sameRun_refl (calls_invoke fun _ _ => by simp) fun _ => trivial
  | scalar value => exact rfl
  | object payload =>
      have dispatched : SameRun pair (fun _ _ => True) (Worker.dispatch settings draws payload)
          (Worker.dispatch settings draws' payload) := by
        by_cases op : payload.op = some .bind
        · simp only [Worker.dispatch, op]
          exact sameRun_complete clock fun bid id member member' own =>
            secret ⟨payload, rfl, op, own ▸ member, own ▸ member'⟩
        · rw [dispatch_now op clock]
          refine sameRun_refl ((calls_dispatch draws').mono (P := payload.Footprint settings queue
            receipt) fun c c_in => ?_) fun _ => trivial
          cases c_in <;> simp
      refine dispatched.attempt.bind fun result result' ended => ?_
      cases result with
      | error e =>
          cases result' with
          | error e' => trivial
          | ok _ => exact ended.elim
      | ok _ =>
          cases result' with
          | error _ => exact ended.elim
          | ok _ => exact sameRun_refl (calls_invoke fun _ _ => by simp) fun _ => trivial

inductive Thread.SameBut (pair : String × String) : Thread → Thread → Prop where
  | request {asked rest rest'} (same : SameRun pair (Response.SameBut pair asked) rest rest') :
      SameBut pair (.request asked rest) (.request asked rest')
  | handling {message rest rest'} (same : SameRun pair (fun _ _ => True) rest rest') :
      SameBut pair (.handling message rest) (.handling message rest')

variable {thread thread' : Thread}

theorem Thread.SameBut.ended (same : thread.SameBut pair thread') :
    Option.Rel (Option.Rel (Answer.SameBut pair)) thread.ended thread'.ended := by
  cases same with
  | @request asked rest rest' same =>
      cases rest <;> cases rest' <;> first
        | exact same.elim
        | exact .some (.some ⟨rfl, same⟩)
        | exact .some (.some ⟨rfl, rfl, fun _ => rfl⟩)
        | exact .none
  | @handling message rest rest' same =>
      cases rest <;> cases rest' <;> first
        | exact same.elim
        | exact .some .none
        | exact .none

theorem Thread.SameBut.advance (same : thread.SameBut pair thread') (outcome : Outcome)
    (self : ExecutionName) (aws : w.SameBut pair w') :
    (thread.advance outcome self w).1.SameBut pair (thread'.advance outcome self w').1 ∧
      (thread.advance outcome self w).2.SameBut pair (thread'.advance outcome self w').2 := by
  have keeps (c c' : Call) (w w' : Aws) (calls : c.SameBut pair c') (same : w.SameBut pair w') :=
    outcome_sameBut outcome self calls same
  cases same with
  | request same =>
      obtain ⟨rest, after⟩ := same.advance keeps aws
      exact ⟨.request rest, after⟩
  | handling same =>
      obtain ⟨rest, after⟩ := same.advance keeps aws
      exact ⟨.handling rest, after⟩

/-! ## Whole runs -/

namespace System

/-- The two actions differ in the password at most, and then they do not handle a bind of the pair.
-/
inductive SameDraws (pair : String × String) (s : System) : Action → Action → Prop where
  | same (i : Action) : SameDraws pair s i i
  | receive {queue receipt delivery draws draws'} (clock : draws.now = draws'.now)
      (secret : ∀ m, (s.aws.tasks queue).find? (·.receiptHandle = receipt) = some m →
        m.Binds pair → draws = draws') :
      SameDraws pair s (.receive queue receipt delivery draws)
        (.receive queue receipt delivery draws')
  | again {queue receipt delivery draws draws'} (clock : draws.now = draws'.now)
      (secret : ∀ r, s.received.find? (fun r => r.1 = queue ∧ r.2.receiptHandle = receipt) =
        some r → r.2.Binds pair → draws = draws') :
      SameDraws pair s (.again queue receipt delivery draws)
        (.again queue receipt delivery draws')

structure SameBut (pair : String × String) (s s' : System) : Prop where
  aws : s.aws.SameBut pair s'.aws
  threads : ∀ name, Option.Rel (Thread.SameBut pair) (s.threads.lookup name)
    (s'.threads.lookup name)
  received : s.received = s'.received
  answers : List.Forall₂ (Answer.SameBut pair) s.answers s'.answers

variable {s s' : System} {name : ThreadName}

theorem SameBut.mem (same : s.SameBut pair s') : name ∈ s.threads ↔ name ∈ s'.threads := by
  rw [← Finmap.lookup_isSome, ← Finmap.lookup_isSome]
  have here := same.threads name
  cases h : s.threads.lookup name <;> cases h' : s'.threads.lookup name <;> rw [h, h'] at here <;>
    first
    | exact Iff.rfl
    | cases here

theorem SameBut.resume (same : s.SameBut pair s') (threads : thread.SameBut pair thread') :
    (s.resume name thread).SameBut pair (s'.resume name thread') := by
  have ended := threads.ended
  unfold System.resume
  cases first : thread.ended with
  | none =>
      cases second : thread'.ended with
      | some _ => rw [first, second] at ended; cases ended
      | none =>
          refine ⟨same.aws, fun name' => ?_, same.received, same.answers⟩
          by_cases here : name' = name
          · subst here
            rw [Finmap.lookup_insert, Finmap.lookup_insert]
            exact .some threads
          · rw [Finmap.lookup_insert_of_ne _ here, Finmap.lookup_insert_of_ne _ here]
            exact same.threads name'
  | some answer =>
      cases second : thread'.ended with
      | none => rw [first, second] at ended; cases ended
      | some answer' =>
          rw [first, second] at ended
          cases ended with
          | some answered =>
              refine ⟨same.aws, fun name' => ?_, same.received, ?_⟩
              · by_cases here : name' = name
                · subst here
                  rw [Finmap.lookup_erase, Finmap.lookup_erase]
                  exact .none
                · rw [Finmap.lookup_erase_ne here, Finmap.lookup_erase_ne here]
                  exact same.threads name'
              · cases answered with
                | none => exact same.answers
                | some answered => exact .cons answered same.answers

theorem SameBut.take (same : s.SameBut pair s') (delivery : Nat) (clock : draws.now = draws'.now)
    (secret : m.Binds pair → draws = draws') :
    (s.take settings queue delivery draws m).SameBut pair
      (s'.take settings queue delivery draws' m) := by
  refine SameBut.resume ⟨same.aws, same.threads, ?_, same.answers⟩
    (.handling (sameRun_handle settings queue m clock secret))
  exact congrArg ((queue, m) :: ·) same.received

theorem tasks_eq (same : w.SameBut pair w') (queue : QueueName) :
    w.tasks queue = w'.tasks queue := by
  cases queue with
  | provision => exact same.provisionTasks
  | binding => exact same.bindingTasks

theorem setTasks_sameBut (same : w.SameBut pair w') (queue : QueueName) (messages : List Message) :
    (w.setTasks queue messages).SameBut pair (w'.setTasks queue messages) := by
  cases queue with
  | provision =>
      exact ⟨same.instances, same.bucket, rfl, same.bindingTasks, same.deleted, same.bindings⟩
  | binding =>
      exact ⟨same.instances, same.bucket, same.provisionTasks, rfl, same.deleted, same.bindings⟩

theorem SameBut.step (same : s.SameBut pair s') {i i' : Action} (draws : s.SameDraws pair i i') :
    (s.step settings i).SameBut pair (s'.step settings i') := by
  have receive (queue : QueueName) (receipt : ExecutionName) (delivery : Nat)
      {draws draws' : Draws} (clock : draws.now = draws'.now)
      (secret : ∀ m, (s.aws.tasks queue).find? (·.receiptHandle = receipt) = some m →
        m.Binds pair → draws = draws') :
      (s.step settings (.receive queue receipt delivery draws)).SameBut pair
        (s'.step settings (.receive queue receipt delivery draws')) := by
    simp only [System.step, ← same.mem, ← tasks_eq same.aws queue]
    split
    next => exact same
    next =>
      split
      next => exact same
      next m found =>
        let rest := (s.aws.tasks queue).eraseP (·.receiptHandle = receipt)
        have taken : SameBut pair { s with aws := s.aws.setTasks queue rest }
            { s' with aws := s'.aws.setTasks queue rest } :=
          ⟨setTasks_sameBut same.aws queue rest, same.threads, same.received, same.answers⟩
        exact taken.take delivery clock (secret m found)
  have again (queue : QueueName) (receipt : ExecutionName) (delivery : Nat)
      {draws draws' : Draws} (clock : draws.now = draws'.now)
      (secret : ∀ r, s.received.find? (fun r => r.1 = queue ∧ r.2.receiptHandle = receipt) =
        some r → r.2.Binds pair → draws = draws') :
      (s.step settings (.again queue receipt delivery draws)).SameBut pair
        (s'.step settings (.again queue receipt delivery draws')) := by
    simp only [System.step, ← same.mem, ← same.received]
    split
    next => exact same
    next =>
      split
      next => exact same
      next m found => exact same.take delivery clock (secret _ found)
  cases draws with
  | receive clock secret => exact receive _ _ _ clock secret
  | again clock secret => exact again _ _ _ clock secret
  | same =>
      cases i with
      | receive queue receipt delivery draws => exact receive _ _ _ rfl fun _ _ _ => rfl
      | again queue receipt delivery draws => exact again _ _ _ rfl fun _ _ _ => rfl
      | start request serial now =>
          simp only [System.step, ← same.mem]
          split
          · exact same
          · exact same.resume (.request (sameRun_app pair now request))
      | call name outcome =>
          have threads := same.threads name
          simp only [System.step]
          cases first : s.threads.lookup name with
          | none =>
              cases second : s'.threads.lookup name with
              | none => exact same
              | some _ => rw [first, second] at threads; cases threads
          | some thread =>
              cases second : s'.threads.lookup name with
              | none => rw [first, second] at threads; cases threads
              | some thread' =>
                  rw [first, second] at threads
                  cases threads with
                  | some threads =>
                      obtain ⟨rest, after⟩ := threads.advance outcome name.self same.aws
                      exact SameBut.resume ⟨after, same.threads, same.received, same.answers⟩ rest

end System

/-- In two runs that draw different passwords for other bindings than one, with failing calls and
messages delivered again in any interleaving, the stores, queues and answers are the same but for
passwords, and the row and the answers of that one binding are the same altogether. -/
theorem passwords_go_nowhere_else (settings : Settings) (w : Aws) (pair : String × String)
    (actions : List (Action × Action))
    (draws : Machine.Along (fun s i => System.step settings s i.1)
      (fun s i => s.SameDraws pair i.1 i.2) ⟨w, ∅, [], []⟩ actions) :
    let s := System.after settings w (actions.map (·.1))
    let s' := System.after settings w (actions.map (·.2))
    s.aws.SameBut pair s'.aws ∧ List.Forall₂ (Answer.SameBut pair) s.answers s'.answers := by
  have start : System.SameBut pair ⟨w, ∅, [], []⟩ ⟨w, ∅, [], []⟩ := by
    refine ⟨⟨rfl, rfl, rfl, rfl, rfl, fun _ => .refl _ _ _⟩, fun name => ?_, rfl, .nil⟩
    rw [Finmap.lookup_empty]
    exact .none
  have all : System.SameBut pair (System.after settings w (actions.map (·.1)))
      (System.after settings w (actions.map (·.2))) :=
    Machine.exec_lockstep (fun _ _ _ same draws => same.step draws) start draws
  exact ⟨all.aws, all.answers⟩

theorem along_same (s : System) (actions : List Action) :
    Machine.Along (fun s i => System.step settings s i.1) (fun s i => s.SameDraws pair i.1 i.2) s
      (actions.map fun i => (i, i)) := by
  induction actions generalizing s with
  | nil => trivial
  | cons i actions ih => exact ⟨.same i, ih _⟩

def twoBindings : List Action :=
  let put : ThreadName := .request ⟨"a", 0⟩
  let bind : ThreadName := .request ⟨"a", 1⟩
  let bind' : ThreadName := .request ⟨"a", 2⟩
  let work : ThreadName := .handling ⟨"a", 1⟩ 0
  let calls (names : List ThreadName) : List Action := names.map (.call · .ok)
  .start (.provision "a" ⟨"s", "p", ∅, ∅⟩ true) 0 "now" :: calls [put, put, put] ++
  .start (.bind "a" "b" ⟨"s", "p", ∅⟩) 1 "now" :: calls [bind, bind, bind, bind] ++
  .start (.bind "a" "c" ⟨"s", "p", ∅⟩) 2 "now" :: calls [bind', bind', bind', bind'] ++
  .receive .binding ⟨"a", 1⟩ 0 ⟨"now", "token"⟩ :: calls [work, work]

def drawnSecond (token : String) : List Action :=
  [.receive .binding ⟨"a", 2⟩ 0 ⟨"now", token⟩, .call (.handling ⟨"a", 2⟩ 0) .ok]

theorem second_password_unseen :
    let row (token : String) : Option BindingItem :=
      (System.after {} .empty (twoBindings ++ drawnSecond token)).aws.bindings ("b", "a")
    row "one" = row "other" ∧ (row "one").isSome = true := by
  refine ⟨?_, by decide⟩
  let both : Action → Action × Action := fun i => (i, i)
  let pairs : List (Action × Action) := twoBindings.map both ++
    [(.receive .binding ⟨"a", 2⟩ 0 ⟨"now", "one"⟩, .receive .binding ⟨"a", 2⟩ 0 ⟨"now", "other"⟩),
      both (.call (.handling ⟨"a", 2⟩ 0) .ok)]
  have draws : Machine.Along (fun s i => System.step {} s i.1)
      (fun s i => s.SameDraws ("b", "a") i.1 i.2) ⟨.empty, ∅, [], []⟩ pairs := by
    refine (Machine.along_append _).mpr ⟨along_same _ _, .receive rfl ?_, .same _, trivial⟩
    rintro m found ⟨payload, read, -, bindingId, -⟩
    have after : Machine.exec (fun s i => System.step {} s i.1) (⟨.empty, ∅, [], []⟩ : System)
        (twoBindings.map both) = System.after {} .empty twoBindings := List.foldl_map
    rw [after] at found
    have waiting : (((System.after {} .empty twoBindings).aws.tasks .binding).find?
        (·.receiptHandle = ⟨"a", 2⟩)).bind (fun m => m.payload.bind Payload.bindingId) =
          some "c" := by decide
    rw [found, Option.bind_some, read, Option.bind_some, bindingId] at waiting
    exact absurd (Option.some.inj waiting) (by decide)
  have same := (passwords_go_nowhere_else {} .empty ("b", "a") pairs draws).1.bindings ("b", "a")
  have firsts : pairs.map (·.1) = twoBindings ++ drawnSecond "one" := rfl
  have seconds : pairs.map (·.2) = twoBindings ++ drawnSecond "other" := rfl
  rw [firsts, seconds] at same
  exact same.2 rfl

end Regnant.Osb
