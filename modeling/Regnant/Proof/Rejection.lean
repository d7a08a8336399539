import Regnant.Proof.Records

namespace Regnant.Osb
open CallTree

def Call.Replies (c : Call) (r : Except Exn c.Result) : Prop :=
  ∀ e, r ≠ .error (.osb e)

def Call.Harmless : (c : Call) → Except Exn c.Result → Prop
  | .getInstance _, _ => True
  | .getBinding _ _, _ => True
  | .putInstance _ _, r => r = .error .conditionalCheckFailed
  | .putBinding _ _ _, r => r = .error .conditionalCheckFailed
  | _, _ => False

abbrev Committed (rest : Handler Response) : Prop :=
  rest.Returns Call.Replies fun response => ¬response.isOsbError

abbrev Checked (rest : Handler Response) : Prop :=
  rest.Guarded Call.Replies Call.Harmless fun response => ¬response.isOsbError

variable {status : Nat} {α : Type} {id bid now : String} {body : Body} {queue : QueueName}
  {payload : Payload} {records : List Entry} {self : ExecutionName} {c : Call}
  {outcome : Outcome} {w : Aws}

theorem checked_raise (e : Exn) : Checked (respond status (.raise e)) :=
  Guarded.of_next (by cases e <;> rfl)

theorem committed_raise (status : Nat) {e : Exn} (foreign : ∀ e', e ≠ .osb e') :
    Committed (respond status (.raise e)) := by
  cases e with
  | osb e' => exact absurd rfl (foreign e')
  | _ => exact fun ⟨_, _, same⟩ => by cases same

theorem Call.Replies.foreign {e : Exn} (replies : c.Replies (.error e)) : ∀ e', e ≠ .osb e' :=
  fun e' same => replies e' (congrArg Except.error same)

theorem committed_send (accepts : ¬Response.isOsbError ⟨status, body⟩) :
    Committed (respond status (do TaskQueue.send queue payload; return body)) := by
  intro r replies
  rcases r with e | _
  · exact committed_raise _ replies.foreign
  · exact accepts

theorem checked_read {t : Handler α} {f : α → Handler Body} (single : Single c t)
    (reads : ∀ r, c.Harmless r) (rest : ∀ a, Checked (respond status (f a))) :
    Checked (respond status (t >>= f)) := by
  obtain ⟨k, rfl, ended⟩ := single
  intro r replies
  refine ⟨fun _ => ?_, fun harm => absurd (reads r) harm⟩
  show Checked (respond status (k r >>= f))
  obtain ⟨a, read⟩ | ⟨e, read⟩ := ended_cases (ended r)
  · rw [read]
    exact rest a
  · rw [read]
    exact checked_raise e

theorem checked_transition {u : InstanceUpdate} (accepts : ¬Response.isOsbError ⟨status, body⟩) :
    Checked (respond status (do
      InstanceStore.transition id u
      TaskQueue.send queue payload
      return body)) := by
  intro r replies
  refine ⟨fun harmless => harmless.elim, fun _ => ?_⟩
  rcases r with e | _
  · exact committed_raise _ replies.foreign
  · exact committed_send accepts

theorem checked_create {service plan : String} {parameters context : Dict}
    (accepts : ¬Response.isOsbError ⟨status, body⟩) :
    Checked (respond status (do
      let _ ← InstanceStore.create now id service plan parameters context
      TaskQueue.send queue payload
      return body)) := by
  intro r replies
  constructor
  · rintro rfl
    trivial
  · intro written
    rcases r with e | _
    · cases e with
      | conditionalCheckFailed => exact absurd rfl written
      | osb e' => exact absurd rfl (replies e')
      | _ => exact committed_raise status replies.foreign
    · exact committed_send accepts

theorem checked_createBinding {service plan : String} {parameters : Dict}
    (accepts : ¬Response.isOsbError ⟨status, body⟩) :
    Checked (respond status (do
      let _ ← BindingStore.create now bid id service plan parameters
      TaskQueue.send queue payload
      return body)) := by
  intro r replies
  constructor
  · rintro rfl
    trivial
  · intro written
    rcases r with e | _
    · cases e with
      | conditionalCheckFailed => exact absurd rfl written
      | osb e' => exact absurd rfl (replies e')
      | _ => exact committed_raise status replies.foreign
    · exact committed_send accepts

theorem accepts_operation (operation : String) :
    ¬Response.isOsbError ⟨status, .operation operation⟩ :=
  fun ⟨_, _, same⟩ => by cases same

theorem checked_provision (payload : ProvisionRequest) (incomplete : Bool) :
    Checked (app now (.provision id payload incomplete)) := by
  rw [app]
  split
  · unfold provisionInstance
    split
    · exact checked_raise _
    · refine checked_read (InstanceStore.single_getOrNone id) (fun _ => trivial) fun existing => ?_
      cases existing with
      | some existing =>
          dsimp only
          split
          · trivial
          · exact checked_raise _
      | none => exact checked_create (accepts_operation _)
  · trivial

theorem checked_update (payload : UpdateRequest) (incomplete : Bool) :
    Checked (app now (.update id payload incomplete)) := by
  rw [app, updateInstance]
  split
  · exact checked_raise _
  · exact checked_read (InstanceStore.single_get id) (fun _ => trivial) fun inst =>
      checked_transition (accepts_operation _)

theorem checked_deprovision (service plan : String) (incomplete : Bool) :
    Checked (app now (.deprovision id service plan incomplete)) := by
  rw [app, deprovisionInstance]
  split
  · exact checked_raise _
  · refine checked_read (InstanceStore.single_get id) (fun _ => trivial) fun inst => ?_
    split
    · exact checked_raise _
    · exact checked_transition (accepts_operation _)

theorem checked_bind (payload : BindRequest) : Checked (app now (.bind id bid payload)) := by
  rw [app, bindInstance]
  refine checked_read (InstanceStore.single_get id) (fun _ => trivial) fun inst => ?_
  split
  · exact checked_raise _
  · refine checked_read (BindingStore.single_getOrNone bid id) (fun _ => trivial) fun existing => ?_
    split
    · trivial
    · refine checked_createBinding ?_
      rintro ⟨_, _, same⟩
      cases same

theorem checked_unbind (service plan : String) :
    Checked (app now (.unbind id bid service plan)) := by
  rw [app, unbindInstance]
  refine checked_read (BindingStore.single_get bid id) (fun _ => trivial) fun binding => ?_
  split
  · exact checked_raise _
  · intro r replies
    refine ⟨fun harmless => harmless.elim, fun _ => ?_⟩
    rcases r with e | _
    · exact committed_raise _ replies.foreign
    · intro r replies
      rcases r with e | _
      · exact committed_raise _ replies.foreign
      · exact accepts_operation _

theorem checked_app (now : String) (request : Request) : Checked (app now request) := by
  cases request with
  | provision id payload incomplete => exact checked_provision payload incomplete
  | update id payload incomplete => exact checked_update payload incomplete
  | deprovision id service plan incomplete => exact checked_deprovision service plan incomplete
  | bind id bid payload => exact checked_bind payload
  | unbind id bid service plan => exact checked_unbind service plan
  | _ =>
      refine Guarded.of_calls (calls_app now _) fun c r c_in _ => ?_
      cases c_in <;> trivial

theorem Outcome.replies (outcome : Outcome) (self : ExecutionName) (c : Call) (w : Aws) :
    c.Replies (outcome.perform self c w).1 := by
  intro e
  cases outcome with
  | fails effect => cases effect <;> simp [Outcome.perform]
  | ok =>
      cases c with
      | putInstance id item => simp only [Outcome.perform, Osb.perform]; split <;> simp
      | putBinding bid id item => simp only [Outcome.perform, Osb.perform]; split <;> simp
      | sendMessage queue payload => cases queue <;> simp [Outcome.perform, Osb.perform]
      | _ => simp [Outcome.perform, Osb.perform]

theorem Call.Harmless.not_writes {p : Performed} (next : p.thread.next = some c)
    (harmless : c.Harmless (p.outcome.perform self c p.before).1) : ¬p.Writes := by
  rintro ⟨effective, writes⟩
  rw [next] at writes
  cases c with
  | getInstance => exact writes
  | getBinding => exact writes
  | putInstance id item =>
      have absent : p.before.instances id = none := writes
      cases outcome : p.outcome with
      | ok => simp [outcome, Outcome.perform, perform, absent, Call.Harmless] at harmless
      | fails effect => cases effect <;> simp [outcome, Outcome.perform, Call.Harmless] at harmless
  | putBinding bid id item =>
      have absent : p.before.bindings (bid, id) = none := writes
      cases outcome : p.outcome with
      | ok => simp [outcome, Outcome.perform, perform, absent, Call.Harmless] at harmless
      | fails effect => cases effect <;> simp [outcome, Outcome.perform, Call.Harmless] at harmless
  | _ => exact harmless

theorem Performed.unchanged {p : Performed} (unwritten : ¬p.Writes) : p.after = p.before := by
  obtain same | ⟨c, next, effective, same⟩ := p.after_cases
  · exact same
  · rw [same]
    by_contra changed
    refine unwritten ⟨effective, ?_⟩
    rw [next]
    cases c with
    | putInstance id item =>
        by_contra present
        obtain ⟨item', row⟩ : ∃ item', p.before.instances id = some item' :=
          Option.ne_none_iff_exists'.mp present
        exact changed (by simp [perform, row])
    | putBinding bid id item =>
        by_contra present
        obtain ⟨item', row⟩ : ∃ item', p.before.bindings (bid, id) = some item' :=
          Option.ne_none_iff_exists'.mp present
        exact changed (by simp [perform, row])
    | getInstance => exact changed rfl
    | getBinding => exact changed rfl
    | _ => trivial

/-- The execution has written nothing so far, or is not going to reject its request. -/
inductive Rejecting (records : List Entry) : ThreadName → Thread → Prop where
  | request {self asked rest}
      (inv : (∀ p ∈ execution self records, ¬p.Writes) ∧ Checked rest ∨ Committed rest) :
      Rejecting records (.request self) (.request asked rest)
  | handling {receipt delivery message rest} :
      Rejecting records (.handling receipt delivery) (.handling message rest)

theorem kept_rejecting (settings : Settings) : Kept settings Rejecting where
  started records self request now :=
    .request (.inl ⟨by simp [execution_started], checked_app now request⟩)
  taken records message delivery queue draws := .handling
  own records p holds := by
    obtain ⟨before, name, thread, outcome⟩ := p
    cases holds with
    | handling => exact .handling
    | @request self asked rest inv =>
        refine .request ?_
        rcases inv with ⟨unwritten, checked⟩ | committed
        · -- only a call that is not harmless can be the first to write
          rw [execution_performed rfl, List.forall_mem_cons]
          cases rest with
          | ret response => exact .inl ⟨⟨fun writes => writes.2, unwritten⟩, checked⟩
          | raise e => exact .inl ⟨⟨fun writes => writes.2, unwritten⟩, checked⟩
          | call c k =>
              obtain ⟨goes, commits⟩ := checked _ (outcome.replies self c before)
              by_cases harmless : c.Harmless (outcome.perform self c before).1
              · exact .inl ⟨⟨harmless.not_writes rfl, unwritten⟩, goes harmless⟩
              · exact .inr (commits harmless)
        · exact .inr (committed.advance _ fun c => outcome.replies self c before)
  other records r name thread holds other := by
    cases holds with
    | handling => exact .handling
    | request inv => exact .request (by rwa [execution_other other])

/-- A request that ends in an error of the broker's own has written and deleted no row and sent no
message, in every interleaving from every state. -/
theorem rejected_request_writes_nothing (settings : Settings) (w : Aws) (actions : List Action)
    (later earlier : List Entry) (self : ExecutionName) (answer : Answer)
    (split : (Recorded.after settings w actions).records =
      later ++ .answered self answer :: earlier)
    (rejected : answer.response.isOsbError) : ∀ p ∈ execution self earlier, ¬p.Writes := by
  let J : Entry → List Entry → Prop
    | .answered self answer, earlier =>
        answer.response.isOsbError → ∀ p ∈ execution self earlier, ¬p.Writes
    | _, _ => True
  have holds : (Recorded.after settings w actions).Holds Rejecting J := by
    refine recorded_holds (kept_rejecting settings) (fun _ _ _ => trivial) (fun _ _ _ => trivial)
      (fun records self answer thread holds ended => ?_) w actions
    cases holds with
    | @request _ asked rest inv =>
        intro rejected
        rcases inv with ⟨unwritten, -⟩ | committed
        · exact unwritten
        · cases rest with
          | ret response =>
              obtain rfl := Option.some.inj ended
              exact absurd rejected committed
          | raise e =>
              obtain rfl := Option.some.inj ended
              obtain ⟨_, _, same⟩ := rejected
              cases same
          | call c k => cases ended
  exact holds.justified later _ earlier split rejected

def creationRace : List Action :=
  let create (serial : Nat) : Action :=
    .start (.provision "a" ⟨"s", "p", ∅, ∅⟩ true) serial "now"
  let calls (serials : List Nat) : List Action :=
    serials.map fun serial => .call (.request ⟨"a", serial⟩) .ok
  create 0 :: create 1 :: calls [0, 1, 0, 1]

theorem lost_race_writes_nothing :
    ¬∃ p ∈ execution ⟨"a", 1⟩ (Recorded.after {} .empty creationRace).records.tail, p.Writes := by
  rintro ⟨p, member, writes⟩
  refine rejected_request_writes_nothing {} .empty creationRace [] _ ⟨"a", 1⟩
    ⟨.provision "a" ⟨"s", "p", ∅, ∅⟩ true,
      ⟨422, .error "ConcurrencyError" "instance a already exists"⟩⟩ rfl ⟨_, _, rfl⟩ p member writes

end Regnant.Osb
