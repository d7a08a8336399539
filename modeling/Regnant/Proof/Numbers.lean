import Regnant.Proof.Calls
import Regnant.Proof.Codec
import Regnant.Proof.Transitions

/-!
# Parameters with numbers

A row holds what the `PUT` and the later `PATCH`es sent, but an integer that was read from it can
neither be shown nor queued again.
-/

namespace Regnant.Osb
open CallTree
open Function (update)

def Aws.Stores (w : Aws) (id : String) (parameters : Dict) : Prop :=
  ∃ item inst, w.instances id = some item ∧ instanceFromItem id item = .ok inst ∧
    inst.parameters = parameters

def Broker.Rewrites (s : Broker) (id : String) : Step → Prop
  | .request (.update id' _ _) _ _ => id' = id
  | .work queue _ => ∃ receipt payload rest,
      s.aws.tasks queue = ⟨receipt, .object payload⟩ :: rest ∧ payload.op = some .update ∧
        payload.instanceId = some id
  | _ => False

def Aws.Holds (w : Aws) (id : String) (P : Dict → Prop) : Prop :=
  ∃ item, w.instances id = some item ∧ item.Complete ∧ P (item.parameters.getD ∅)

def Call.Leaves (id : String) (P : Dict → Prop) : Call → Prop
  | .updateInstance id' u => id' = id → ∀ d, u.parameters = some d → P d
  | _ => True

def Call.WritesNoRow : Call → Prop
  | .putInstance _ _ => False
  | .updateInstance _ _ => False
  | _ => True

namespace Codec

variable {settings : Settings} {self receipt : ExecutionName} {now id : String} {draws : Draws}
  {queue : QueueName} {w : Aws} {c : Call} {P : Dict → Prop} {α : Type}

theorem calls_write (f : PyValue → Option Value) (d : PyDict) {P : Call → Prop} :
    (d.write f).Calls P := by
  unfold PyDict.write
  split <;> trivial

theorem calls_app (now : String) (request : Request) :
    (app now request).Calls request.Footprint := by
  cases request with
  | update id payload incomplete =>
      refine calls_respond ?_
      unfold updateInstance
      split
      · trivial
      · refine calls_bind (InstanceStore.calls_get (.getInstance (.update id payload _))) ?_
        intro inst
        refine calls_bind (calls_write _ _) fun _ => ?_
        refine calls_bind (calls_invoke (.queueUpdate _)) fun _ => ?_
        refine calls_bind (calls_write _ _) fun _ => ?_
        exact calls_bind (calls_invoke (.sendUpdate _ _)) fun _ => trivial
  | fetchInstance id =>
      refine calls_respond (calls_bind (InstanceStore.calls_get ?_) fun inst => ?_)
      · exact .getInstance (.fetchInstance id)
      · exact calls_bind (calls_write _ _) fun _ => trivial
  | fetchBinding id bid =>
      refine calls_respond (calls_bind (BindingStore.calls_get .fetchGet) fun binding => ?_)
      exact calls_bind (calls_write _ _) fun _ => trivial
  | _ => exact Osb.calls_app now _

theorem leaves_floatFree {c : Call} (storable : c.Storable) : c.Leaves id Dict.FloatFree := by
  cases c with
  | updateInstance id' u =>
      intro _ d parameters
      simpa [Call.Storable, parameters] using storable
  | _ => trivial

theorem holds_perform (leaves : c.Storable → c.Leaves id P) (stays : c ≠ .deleteInstance id)
    (holds : w.Holds id P) : (perform self c w).2.Holds id P := by
  unfold perform
  split
  next storable =>
    rw [Aws.Holds, perform_instances]
    refine RowChange.apply_keeps ?_ holds
    cases c with
    | putInstance => exact .onKey fun _ => trivial
    | updateInstance id' u =>
        refine .onKey ?_
        rintro same item ⟨complete, here⟩
        exact ⟨complete.apply u, u.parameters_apply here (leaves storable same)⟩
    | deleteInstance id' => exact .onKey fun same => stays (congrArg Call.deleteInstance same)
    | _ => trivial
  next => exact holds

theorem holds_run {t : Handler α} (leaves : t.Calls fun c => c.Storable → c.Leaves id P)
    (stays : t.Calls (· ≠ .deleteInstance id)) (holds : w.Holds id P) :
    (t.run (perform self) w).2.Holds id P :=
  run_keeps (I := fun w : Aws => w.Holds id P) _ (leaves.and stays)
    (fun _ _ call => holds_perform call.1 call.2) holds

theorem holds_run_or {t : Handler α} (writes : t.Calls Call.WritesNoRow)
    (holds : w.Holds id P) :
    (t.run (perform self) w).2.instances id = none ∨ (t.run (perform self) w).2.Holds id P := by
  refine run_keeps (I := fun w : Aws => w.instances id = none ∨ w.Holds id P) _ writes ?_
    (.inr holds)
  intro c w writes here
  by_cases deletes : c = .deleteInstance id
  · subst deletes
    exact .inl (by simp [perform, Call.Storable, Osb.perform])
  rcases here with absent | holds
  · left
    unfold perform
    split
    next =>
      rw [perform_instances, absent]
      cases c with
      | putInstance => exact writes.elim
      | updateInstance => exact writes.elim
      | deleteInstance id' =>
          rw [Call.onInstance, RowChange.onKey]
          split <;> rfl
      | _ => rfl
    next => exact absent
  · have leaves : c.Leaves id P := by
      cases c with
      | updateInstance => exact writes.elim
      | _ => trivial
    exact .inr (holds_perform (fun _ => leaves) deletes holds)

theorem answer_snd {request : Request} :
    (answer w self now request).2 = ((app now request).run (perform self) w).2 := by
  unfold answer
  split <;> simp [*]

theorem holds_answer {request : Request}
    (leaves : (app now request).Calls fun c => c.Storable → c.Leaves id P)
    (holds : w.Holds id P) : (answer w self now request).2.Holds id P := by
  rw [answer_snd]
  refine holds_run leaves ((calls_app now request).mono fun c c_in => ?_) holds
  rintro rfl
  cases c_in

theorem holds_handle {message : Message}
    (leaves : (Worker.handle settings queue draws message).Calls fun c =>
      c.Storable → c.Leaves id P) (holds : w.Holds id P) :
    let w' := ((Worker.handle settings queue draws message).run (perform message.receiptHandle) w).2
    w'.instances id = none ∨ w'.Holds id P := by
  obtain ⟨receipt, body⟩ := message
  cases body with
  | malformed text => exact holds_run_or (calls_invoke trivial) holds
  | scalar value => exact .inr holds
  | object payload =>
      have calls : (Worker.handle settings queue draws ⟨receipt, .object payload⟩).Calls
          (payload.Footprint settings queue receipt) := calls_handle draws
      by_cases removes : payload.op = some .deprovision
      · refine holds_run_or (calls.mono fun c c_in => ?_) holds
        cases c_in with
        | updateInstance op => simp [removes] at op
        | _ => trivial
      · refine .inr (holds_run leaves (calls.mono fun c c_in => ?_) holds)
        rintro rfl
        cases c_in with
        | deleteInstance op => exact removes op

theorem holds_setTasks {rest : List Message} (holds : w.Holds id P) :
    (w.setTasks queue rest).Holds id P := by
  cases queue <;> exact holds

def Leaves (settings : Settings) (id : String) (P : Dict → Prop) (s : Broker) : Step → Prop
  | .request request _ now => (app now request).Calls fun c => c.Storable → c.Leaves id P
  | .work queue draws => ∀ message rest, s.aws.tasks queue = message :: rest →
      (Worker.handle settings queue draws message).Calls fun c => c.Storable → c.Leaves id P

theorem holds_step {s : Broker} {i : Step} (leaves : Leaves settings id P s i)
    (holds : s.aws.Holds id P) (present : (step settings s i).aws.instances id ≠ none) :
    (step settings s i).aws.Holds id P := by
  cases i with
  | request request serial now => exact holds_answer leaves holds
  | work queue draws =>
      cases tasks : s.aws.tasks queue with
      | nil => simpa [step, tasks] using holds
      | cons message rest =>
          simp only [step, tasks] at present ⊢
          exact (holds_handle (leaves message rest tasks) (holds_setTasks holds)).resolve_left
            present

theorem leaves_step_floatFree (s : Broker) (i : Step) :
    Leaves settings id Dict.FloatFree s i := by
  cases i with
  | request request serial now => exact .of_forall (fun _ => leaves_floatFree) _
  | work queue draws => exact fun _ _ _ => .of_forall (fun _ => leaves_floatFree) _

theorem leaves_app {request : Request}
    (other : ∀ payload incomplete, request ≠ .update id payload incomplete) :
    (app now request).Calls (Call.Leaves id P) := by
  cases request with
  | deprovision id' service plan incomplete =>
      refine calls_respond (calls_deprovisionInstance trivial (fun u kept => ?_) trivial)
      rintro - d written
      simp [kept] at written
  | update id' payload incomplete =>
      refine (calls_app now _).mono fun c c_in => ?_
      cases c_in with
      | queueUpdate u =>
          rintro rfl
          exact absurd rfl (other payload incomplete)
      | _ => trivial
  | _ =>
      refine (calls_app now _).mono fun c c_in => ?_
      cases c_in <;> trivial

theorem leaves_handle {payload : Payload}
    (other : ¬(payload.op = some .update ∧ payload.instanceId = some id)) :
    (Worker.handle settings queue draws ⟨receipt, .object payload⟩).Calls (Call.Leaves id P) := by
  by_cases provisions : payload.op = some .provision
  · refine calls_bind (calls_attempt ?_) fun result => ?_
    · simp only [Worker.dispatch, provisions]
      refine calls_provision (fun _ _ _ => trivial) fun id' u _ kept => ?_
      rintro - d written
      simp [kept] at written
    · cases result with
      | error e => trivial
      | ok _ => exact calls_invoke trivial
  · refine (calls_handle draws).mono fun c c_in => ?_
    cases c_in with
    | updateInstance op member u =>
        rintro rfl
        exact absurd ⟨op.resolve_left provisions, member⟩ other
    | _ => trivial

theorem leaves_step {s : Broker} {i : Step} (other : ¬s.Rewrites id i) :
    Leaves settings id P s i := by
  cases i with
  | request request serial now =>
      refine (leaves_app ?_).mono fun c leaves _ => leaves
      rintro payload incomplete rfl
      exact other rfl
  | work queue draws =>
      rintro ⟨receipt, body⟩ rest tasks
      cases body with
      | malformed text => exact calls_invoke fun _ => trivial
      | scalar value => trivial
      | object payload =>
          refine (leaves_handle ?_).mono fun c leaves _ => leaves
          rintro ⟨op, member⟩
          exact other ⟨receipt, payload, rest, tasks, op, member⟩

theorem holds_exec {s : Broker} {steps : List Step}
    (leaves : Machine.Along (step settings) (Leaves settings id P) s steps)
    (lasts : Machine.Along (step settings)
      (fun s i => (step settings s i).aws.instances id ≠ none) s steps)
    (holds : s.aws.Holds id P) : (Machine.exec (step settings) s steps).aws.Holds id P :=
  Machine.exec_invariant (I := fun s : Broker => s.aws.Holds id P) _
    (fun _ _ here allowed => holds_step allowed.1 here allowed.2) holds (leaves.and _ lasts)

theorem created_of_accepted {payload : ProvisionRequest} {incomplete : Bool}
    (absent : w.instances id = none)
    (accepted : (answer w self now (.provision id payload incomplete)).1.accepted) :
    payload.parameters.FloatFree ∧
      (answer w self now (.provision id payload incomplete)).2.Holds id
        (· = payload.parameters) := by
  by_cases valid : validInstanceId id
  · cases incomplete with
    | false =>
        simp [answer, app, Osb.app, valid, respond, provisionInstance, osbError,
          OsbErrorKind.statusCode, Response.accepted] at accepted
    | true =>
        by_cases free : payload.parameters.FloatFree ∧ payload.context.FloatFree
        · rw [answer_provision_storable free.1 free.2, answer_provision_absent valid absent]
          exact ⟨free.1, _, Function.update_self .., .newItem _ _ _ _ _, rfl⟩
        · simp [answer_provision_refused valid absent free, Response.accepted] at accepted
  · simp [answer, app, Osb.app, valid, Response.accepted] at accepted

theorem fetchInstance_iff {item : InstanceItem} {inst : Instance}
    (present : w.instances id = some item) (read : instanceFromItem id item = .ok inst) :
    (∃ service plan url, (answer w self now (.fetchInstance id)).1 =
      ⟨200, .fetchInstance service plan url inst.parameters⟩) ↔ inst.parameters.IntFree := by
  rw [answer_fetchInstance_present present read, ← toResponse_read_iff]
  cases Finmap.traverse PyValue.toResponse (inst.parameters.read Value.fromTable) with
  | none => simp
  | some shown => simp

theorem update_iff {item : InstanceItem} {inst : Instance} {payload : UpdateRequest}
    {incomplete : Bool} (present : w.instances id = some item)
    (read : instanceFromItem id item = .ok inst) (stored : inst.parameters.FloatFree)
    (sent : payload.parameters.FloatFree) :
    let answer := answer w self now (.update id payload incomplete)
    (answer.1.status = 202 ∧ ∃ plan, answer.2.provisionTasks = w.provisionTasks ++
        [⟨self, .object (.update id payload.serviceId plan
          (inst.parameters.merge payload.parameters))⟩]) ↔
      incomplete = true ∧ ∀ key v, key ∉ payload.parameters →
        inst.parameters.lookup key = some v → v.IntFree := by
  cases incomplete with
  | false => simp [answer, app, respond, updateInstance, osbError, OsbErrorKind.statusCode]
  | true =>
      rw [answer_update_present present read stored sent, ← toJson_merge_iff]
      cases queued : Finmap.traverse PyValue.toJson ((inst.parameters.read Value.fromTable).merge
        (payload.parameters.read Value.fromJson)) with
      | none => simp
      | some d => simp

end Codec

/-- While a created row is there, it can be read. It is shown as it is stored exactly when it holds
no integer, and a later `PATCH` is carried out exactly when it overrides every member with one. -/
theorem parameters_survive_iff (settings : Settings) (before more : List Step) (id now : String)
    (payload : ProvisionRequest) (incomplete : Bool) (serial : Nat)
    (absent : (Codec.after settings before).aws.instances id = none)
    (accepted : (Codec.answer (Codec.after settings before).aws ⟨id, serial⟩ now
      (.provision id payload incomplete)).1.accepted)
    (lasts : ∀ part, part <+: more → (Codec.after settings
      (before ++ .request (.provision id payload incomplete) serial now :: part)).aws.instances id ≠
        none) :
    let created := Codec.after settings
      (before ++ [.request (.provision id payload incomplete) serial now])
    let w := (Machine.exec (Codec.step settings) created more).aws
    ∃ parameters, w.Stores id parameters ∧
      (Machine.Along (Codec.step settings) (fun s i => ¬s.Rewrites id i) created more →
        parameters = payload.parameters) ∧
      (∀ self now, (∃ service plan url, (Codec.answer w self now (.fetchInstance id)).1 =
        ⟨200, .fetchInstance service plan url parameters⟩) ↔ parameters.IntFree) ∧
      ∀ self now sent incomplete, sent.parameters.FloatFree →
        let answer := Codec.answer w self now (.update id sent incomplete)
        ((answer.1.status = 202 ∧ ∃ plan, answer.2.provisionTasks = w.provisionTasks ++
            [⟨self, .object (.update id sent.serviceId plan
              (parameters.merge sent.parameters))⟩]) ↔
          incomplete = true ∧ ∀ key v, key ∉ sent.parameters →
            parameters.lookup key = some v → v.IntFree) := by
  intro created w
  obtain ⟨free, holds⟩ := Codec.created_of_accepted absent accepted
  have start : created = Codec.step settings (Codec.after settings before)
      (.request (.provision id payload incomplete) serial now) := by
    simp [created]
  replace holds : created.aws.Holds id (· = payload.parameters) := start ▸ holds
  have stays : Machine.Along (Codec.step settings)
      (fun s i => (Codec.step settings s i).aws.instances id ≠ none) created more := by
    refine (Machine.invariant_iff_along (I := fun s : Broker => s.aws.instances id ≠ none)
      (J := fun _ => True) _ (fun _ _ _ => trivial) (fun _ _ _ _ => Iff.rfl) trivial ?_).mp ?_
    · obtain ⟨item, present, -⟩ := holds
      simp [present]
    · intro part pre
      simpa [created] using lasts part pre
  -- the row stays complete and free of floats, whatever is written to it
  obtain ⟨item, present, complete, stored⟩ : w.Holds id Dict.FloatFree := by
    refine Codec.holds_exec ?_ stays ?_
    · exact (Machine.Along.true _ _ _).mono _ fun s i _ => Codec.leaves_step_floatFree s i
    · obtain ⟨item, present, complete, same⟩ := holds
      exact ⟨item, present, complete, same ▸ free⟩
  obtain ⟨inst, read⟩ := complete.read id
  have same : inst.parameters = item.parameters.getD ∅ := (instanceFromItem_ok read).2.2.2.1
  refine ⟨inst.parameters, ⟨item, inst, present, read, rfl⟩, ?_, ?_, ?_⟩
  · intro kept
    obtain ⟨item', present', -, same'⟩ := Codec.holds_exec
      (kept.mono _ fun s i other => Codec.leaves_step other) stays holds
    obtain rfl : item = item' := Option.some.inj (present.symm.trans present')
    exact same.trans same'
  · intro self now
    exact Codec.fetchInstance_iff present read
  · intro self now sent incomplete sent_free
    exact Codec.update_iff present read (same ▸ stored) sent_free

def numbered : ProvisionRequest where
  serviceId := "s"
  planId := "p"
  parameters := Finmap.singleton "n" (.int 1)

def textual : ProvisionRequest where
  serviceId := "s"
  planId := "p"
  parameters := Finmap.singleton "n" (.str "1")

theorem textual_shown :
    ∃ service plan url, (Codec.answer
      (Codec.after {} [.request (.provision "a" textual true) 0 "now"]).aws ⟨"a", 1⟩ "later"
        (.fetchInstance "a")).1 = ⟨200, .fetchInstance service plan url textual.parameters⟩ := by
  obtain ⟨parameters, -, kept, shown, -⟩ := parameters_survive_iff {} [] [] "a" "now" textual true 0
    rfl (by decide) (fun part pre => by
      obtain rfl := List.prefix_nil.mp pre
      decide)
  obtain rfl := kept trivial
  exact (shown _ _).mpr (by decide)

theorem parameters_not_always_survive :
    let w := (Codec.after {} [.request (.provision "a" numbered true) 0 "now"]).aws
    let update := Codec.answer w ⟨"a", 1⟩ "now" (.update "a" ⟨"s", none, ∅⟩ true)
    (Codec.answer Aws.empty ⟨"a", 0⟩ "now" (.provision "a" numbered true)).1.accepted ∧
      numbered.parameters.FloatFree ∧
      (Codec.answer w ⟨"a", 1⟩ "now" (.fetchInstance "a")).1 =
        ⟨200, .fetchInstance "s" "p" none textual.parameters⟩ ∧
      textual.parameters ≠ numbered.parameters ∧ update.1 = ⟨500, .serverError⟩ ∧
      (update.2.instances "a").map (·.state) = some (some .updating) := by
  decide

end Regnant.Osb
