import Regnant.Osb.Untyped
import Regnant.Proof.Effects

namespace Regnant.Osb.Untyped
open CallTree

variable {Bytes σ : Type}

abbrev Entry (Bytes : Type) := (c : Call Bytes) × Except Exn c.Result

def Known (op : Option Value) : Prop :=
  ∃ name ∈ ["provision", "update", "deprovision", "bind", "unbind"], op = some (.str name)

inductive Completed (lib : Library Bytes) (settings : WorkerSettings) (draws : Draws)
    (payload : Worker.Members) : List (Entry Bytes) → Prop where
  | provision {instanceId serviceId planId : Value} {body : Bytes}
      (op : payload.lookup "op" = some (.str "provision"))
      (id : payload.lookup "instance_id" = some instanceId)
      (service : payload.lookup "service_id" = some serviceId)
      (plan : payload.lookup "plan_id" = some planId)
      (rendered : renderResources lib instanceId serviceId planId
        (get ((payload.lookup "parameters").getD (.dict []))) = .ok body) :
      Completed lib settings draws payload
        [⟨.putObject (ArtifactStore.key settings lib instanceId) body, .ok ()⟩,
         ⟨.updateInstance instanceId (Worker.provisioned lib settings draws.now instanceId),
           .ok ()⟩]
  | update {instanceId : Value} {item : InstanceItem} {inst : Instance} {body : Bytes}
      (op : payload.lookup "op" = some (.str "update"))
      (id : payload.lookup "instance_id" = some instanceId)
      (read : instanceFromItem (lib.str instanceId) item = .ok inst)
      (rendered : Worker.renderUpdate lib instanceId payload inst = .ok body) :
      Completed lib settings draws payload
        [⟨.getInstance instanceId, .ok (some item)⟩,
         ⟨.putObject (ArtifactStore.key settings lib instanceId) body, .ok ()⟩,
         ⟨.updateInstance instanceId (Worker.updated lib settings draws.now instanceId payload),
           .ok ()⟩]
  | updateMissed {instanceId : Value} {reply : Except Exn (Option InstanceItem)}
      (op : payload.lookup "op" = some (.str "update"))
      (id : payload.lookup "instance_id" = some instanceId)
      (missing : reply = .ok none ∨ ∃ message, reply = .error (.osb ⟨.instanceNotFound, message⟩)) :
      Completed lib settings draws payload [⟨.getInstance instanceId, reply⟩]
  | deprovision {instanceId : Value} (op : payload.lookup "op" = some (.str "deprovision"))
      (id : payload.lookup "instance_id" = some instanceId) :
      Completed lib settings draws payload
        [⟨.deleteObject (ArtifactStore.key settings lib instanceId), .ok ()⟩,
         ⟨.deleteInstance instanceId, .ok ()⟩]
  | bind {instanceId bindingId : Value} (op : payload.lookup "op" = some (.str "bind"))
      (id : payload.lookup "instance_id" = some instanceId)
      (bid : payload.lookup "binding_id" = some bindingId) :
      Completed lib settings draws payload
        [⟨.updateBinding bindingId instanceId
          ⟨.bound, Worker.credentials lib draws.token instanceId bindingId, draws.now⟩, .ok ()⟩]
  | unbind {bindingId : Value} (op : payload.lookup "op" = some (.str "unbind"))
      (bid : payload.lookup "binding_id" = some bindingId) :
      Completed lib settings draws payload []

variable (p : (c : Call Bytes) → σ → Except Exn c.Result × σ) {lib : Library Bytes}
  {settings : WorkerSettings} {draws : Draws} {messageId : Option String}
  {payload : Worker.Members} {s s' : σ}

@[simp] theorem run_logLine {level : LogLevel} {event : String} {fields : List (String × Value)} :
    run p (logLine lib level event fields) s =
      ((("event", .str event) :: fields).forM fun field => lib.logs level field.2, s) :=
  run_ofExcept p _ s

@[simp] theorem log_logLine {level : LogLevel} {event : String}
    {fields : List (String × Value)} : log p (logLine lib level event fields) s = [] :=
  log_ofExcept p _ s

@[simp] theorem log_logFailure {e : Exn} :
    log p (Worker.logFailure lib messageId payload e) s = [] := by
  cases e <;> exact log_logLine p

theorem require_ok {α : Type} {key : String} {member : Option α} {a : α}
    (present : require key member = .ok a) : member = some a := by
  cases member with
  | none => cases present
  | some a' => exact congrArg some (Except.ok.inj present)

theorem write_ok {instanceId : Value} {body : Bytes} {f : String → Handler Bytes Unit}
    (ran : (run p (ArtifactStore.write settings lib instanceId body >>= f) s).1 = .ok ()) :
    ∃ s', (run p (f (ArtifactStore.key settings lib instanceId)) s').1 = .ok () ∧
      log p (ArtifactStore.write settings lib instanceId body >>= f) s =
        ⟨.putObject (ArtifactStore.key settings lib instanceId) body, .ok ()⟩ ::
          log p (f (ArtifactStore.key settings lib instanceId)) s' := by
  obtain ⟨key, s', first, ran, split⟩ := run_bind_ok p ran
  obtain ⟨_, -, same, written⟩ := run_invoke_bind_ok p (congrArg Prod.fst first)
  obtain rfl : ArtifactStore.key settings lib instanceId = key := Except.ok.inj same
  exact ⟨s', ran, by rw [split, ArtifactStore.write, written]; rfl⟩

theorem provision_completed (op : payload.lookup "op" = some (.str "provision"))
    (ran : (run p (Worker.provision lib settings draws.now payload) s).1 = .ok ()) :
    Completed lib settings draws payload
      (log p (Worker.provision lib settings draws.now payload) s) := by
  unfold Worker.provision at ran ⊢
  obtain ⟨instanceId, id, ran, split⟩ := run_ofExcept_bind_ok p ran
  rw [Worker.subscript, split]
  obtain ⟨serviceId, service, ran, split⟩ := run_ofExcept_bind_ok p ran
  rw [Worker.subscript, split]
  obtain ⟨planId, plan, ran, split⟩ := run_ofExcept_bind_ok p ran
  rw [Worker.subscript, split]
  obtain ⟨body, rendered, ran, split⟩ := run_ofExcept_bind_ok p ran
  rw [split]
  obtain ⟨s', ran, split⟩ := write_ok p ran
  rw [split, InstanceStore.transition, run_invoke_ok p ran]
  exact .provision op (require_ok id) (require_ok service) (require_ok plan) rendered

theorem log_get {instanceId : Value} : log p (InstanceStore.get lib instanceId) s =
    [⟨.getInstance instanceId, (p (.getInstance instanceId) s).1⟩] := by
  rw [InstanceStore.get, log_bind, log_invoke, run_invoke]
  cases reply : p (.getInstance instanceId) s with
  | mk row s' =>
      cases row with
      | error e => rfl
      | ok item => cases item <;> simp

theorem get_ok {instanceId : Value} {inst : Instance}
    (read : (run p (InstanceStore.get lib instanceId) s).1 = .ok inst) :
    ∃ item, (p (.getInstance instanceId) s).1 = .ok (some item) ∧
      instanceFromItem (lib.str instanceId) item = .ok inst := by
  obtain ⟨item, present, ran, -⟩ := run_invoke_bind_ok p read
  cases item with
  | none => cases ran
  | some item =>
      rw [run_ofExcept] at ran
      exact ⟨item, present, ran⟩

theorem get_missing {instanceId : Value} {message : String}
    (read : (run p (InstanceStore.get lib instanceId) s).1 =
      .error (.osb ⟨.instanceNotFound, message⟩)) :
    (p (.getInstance instanceId) s).1 = .ok none ∨
      ∃ message,
        (p (.getInstance instanceId) s).1 = .error (.osb ⟨.instanceNotFound, message⟩) := by
  rw [InstanceStore.get, run_bind, run_invoke] at read
  cases reply : p (.getInstance instanceId) s with
  | mk row s' =>
      rw [reply] at read
      cases row with
      | error e =>
          dsimp only at read
          exact .inr ⟨message, congrArg Except.error (Except.error.inj read)⟩
      | ok item =>
          cases item with
          | none => exact .inl rfl
          | some item =>
              dsimp only at read
              rw [run_ofExcept] at read
              obtain ⟨key, same⟩ := instanceFromItem_error read
              cases same

theorem update_completed (op : payload.lookup "op" = some (.str "update"))
    (ran : (run p (Worker.update lib settings draws.now payload) s).1 = .ok ()) :
    Completed lib settings draws payload
      (log p (Worker.update lib settings draws.now payload) s) := by
  unfold Worker.update at ran ⊢
  obtain ⟨instanceId, id, ran, split⟩ := run_ofExcept_bind_ok p ran
  rw [Worker.subscript, split]
  obtain ⟨row, s', read, ran, split⟩ := run_bind_ok p ran
  rw [run_attempt, Prod.mk.injEq, Except.ok.injEq] at read
  obtain ⟨read, -⟩ := read
  rw [split, log_attempt, log_get]
  cases row with
  | ok inst =>
      obtain ⟨item, present, read⟩ := get_ok p read
      obtain ⟨body, rendered, ran, split⟩ := run_ofExcept_bind_ok p ran
      obtain ⟨s'', ran, written⟩ := write_ok p ran
      rw [present, split, written, InstanceStore.transition, run_invoke_ok p ran]
      exact .update op (require_ok id) read rendered
  | error e =>
      -- only a missing instance is caught
      cases e with
      | osb error =>
          obtain ⟨kind, message⟩ := error
          cases kind with
          | instanceNotFound =>
              dsimp only
              rw [log_logLine]
              exact .updateMissed op (require_ok id) (get_missing p read)
          | _ => cases ran
      | _ => cases ran

theorem deprovision_completed (op : payload.lookup "op" = some (.str "deprovision"))
    (ran : (run p (Worker.deprovision lib settings payload) s).1 = .ok ()) :
    Completed lib settings draws payload (log p (Worker.deprovision lib settings payload) s) := by
  unfold Worker.deprovision at ran ⊢
  obtain ⟨instanceId, id, ran, split⟩ := run_ofExcept_bind_ok p ran
  rw [Worker.subscript, split]
  obtain ⟨_, -, ran, split⟩ := run_invoke_bind_ok p ran
  rw [ArtifactStore.delete, split, InstanceStore.delete, run_invoke_ok p ran]
  exact .deprovision op (require_ok id)

theorem bind_completed (op : payload.lookup "op" = some (.str "bind"))
    (ran : (run p (Worker.bind lib draws payload) s).1 = .ok ()) :
    Completed lib settings draws payload (log p (Worker.bind lib draws payload) s) := by
  unfold Worker.bind at ran ⊢
  obtain ⟨instanceId, id, ran, split⟩ := run_ofExcept_bind_ok p ran
  rw [Worker.subscript, split]
  obtain ⟨bindingId, bid, ran, split⟩ := run_ofExcept_bind_ok p ran
  rw [Worker.subscript, split, BindingStore.complete, run_invoke_ok p ran]
  exact .bind op (require_ok id) (require_ok bid)

theorem unbind_completed (op : payload.lookup "op" = some (.str "unbind"))
    (ran : (run p (Worker.unbind lib payload) s).1 = .ok ()) :
    Completed lib settings draws payload
      (log p (Worker.unbind lib payload) s) := by
  unfold Worker.unbind at ran ⊢
  obtain ⟨bindingId, bid, -, split⟩ := run_ofExcept_bind_ok p ran
  rw [Worker.subscript, split, log_logLine]
  exact .unbind op (require_ok bid)

theorem dispatch_completed (known : Known (payload.lookup "op"))
    (ran : (run p (Worker.dispatch lib settings draws messageId payload) s).1 = .ok ()) :
    Completed lib settings draws payload
      (log p (Worker.dispatch lib settings draws messageId payload) s) := by
  obtain ⟨name, member, op⟩ := known
  simp only [List.mem_cons, List.not_mem_nil, or_false] at member
  obtain rfl | rfl | rfl | rfl | rfl := member
  · have same : Worker.dispatch lib settings draws messageId payload =
        Worker.provision lib settings draws.now payload := by simp [Worker.dispatch, op]
    rw [same] at ran ⊢
    exact provision_completed p op ran
  · have same : Worker.dispatch lib settings draws messageId payload =
        Worker.update lib settings draws.now payload := by simp [Worker.dispatch, op]
    rw [same] at ran ⊢
    exact update_completed p op ran
  · have same : Worker.dispatch lib settings draws messageId payload =
        Worker.deprovision lib settings payload := by simp [Worker.dispatch, op]
    rw [same] at ran ⊢
    exact deprovision_completed p op ran
  · have same : Worker.dispatch lib settings draws messageId payload =
        Worker.bind lib draws payload := by simp [Worker.dispatch, op]
    rw [same] at ran ⊢
    exact bind_completed p op ran
  · have same : Worker.dispatch lib settings draws messageId payload =
        Worker.unbind lib payload := by simp [Worker.dispatch, op]
    rw [same] at ran ⊢
    exact unbind_completed p op ran

def Call.DeletesMessage : Call Bytes → Prop
  | .deleteMessage _ _ => True
  | _ => False

theorem dispatch_calls (lib : Library Bytes) (settings : WorkerSettings) (draws : Draws)
    (messageId : Option String) (payload : Worker.Members) :
    (Worker.dispatch lib settings draws messageId payload).Calls fun c => ¬c.DeletesMessage := by
  have invoked {c : Call Bytes} (other : ¬c.DeletesMessage) :
      (invoke c).Calls fun c => ¬c.DeletesMessage := calls_invoke other
  have write (instanceId : Value) (body : Bytes) :
      (ArtifactStore.write settings lib instanceId body).Calls fun c => ¬c.DeletesMessage :=
    calls_bind (invoked id) fun _ => trivial
  unfold Worker.dispatch
  dsimp only
  split_ifs
  · refine calls_bind (calls_ofExcept _) fun _ => calls_bind (calls_ofExcept _) fun _ => ?_
    refine calls_bind (calls_ofExcept _) fun _ => calls_bind (calls_ofExcept _) fun _ => ?_
    exact calls_bind (write _ _) fun _ => invoked id
  · refine calls_bind (calls_ofExcept _) fun _ => calls_bind (calls_attempt ?_) fun row => ?_
    · refine calls_bind (invoked id) fun item => ?_
      cases item with
      | none => trivial
      | some item => exact calls_ofExcept _
    · split
      · exact calls_ofExcept _
      · trivial
      · refine calls_bind (calls_ofExcept _) fun _ => ?_
        exact calls_bind (write _ _) fun _ => invoked id
  · refine calls_bind (calls_ofExcept _) fun _ => ?_
    exact calls_bind (invoked id) fun _ => invoked id
  · refine calls_bind (calls_ofExcept _) fun _ => calls_bind (calls_ofExcept _) fun _ => ?_
    exact invoked id
  · exact calls_bind (calls_ofExcept _) fun _ => calls_ofExcept _
  · exact calls_ofExcept _

/-- A message is taken off its queue only when its body is malformed, its op is unknown, or its
handler has run to its end. -/
theorem acknowledged_after_work (lib : Library Bytes) (settings : WorkerSettings)
    (queue : QueueName) (draws : Draws) (message : Message) (s : σ)
    (acknowledged : ∃ entry ∈ log p (Worker.handle lib settings queue draws message) s,
      entry.1.DeletesMessage) :
    lib.loads (message.body.getD "\x7b\x7d") = .error .decodeError ∨
      ∃ payload, lib.loads (message.body.getD "\x7b\x7d") = .ok (.dict payload) ∧
        (¬Known (payload.lookup "op") ∨
          (run p (Worker.dispatch lib settings draws message.messageId payload) s).1 = .ok () ∧
            Completed lib settings draws payload
              (log p (Worker.dispatch lib settings draws message.messageId payload) s)) := by
  obtain ⟨entry, logged, deletes⟩ := acknowledged
  unfold Worker.handle at logged
  cases loaded : lib.loads (message.body.getD "\x7b\x7d") with
  | error e =>
      rw [loaded] at logged
      cases e with
      | decodeError => exact .inl rfl
      | other e => cases logged
  | ok v =>
      rw [loaded] at logged
      cases v with
      | dict payload =>
          refine .inr ⟨payload, rfl, ?_⟩
          by_cases known : Known (payload.lookup "op")
          · right
            rw [log_bind, List.mem_append, log_attempt, run_attempt] at logged
            rcases logged with logged | logged
            · have calls := dispatch_calls lib settings draws message.messageId payload
              exact absurd deletes (log_calls p calls _ logged)
            · cases ran :
                  (run p (Worker.dispatch lib settings draws message.messageId payload) s).1 with
              | error e => simp [ran] at logged
              | ok result => exact ⟨rfl, dispatch_completed p known ran⟩
          · exact .inl known
      | _ => cases logged

def unfailing : (c : Call Bytes) → σ → Except Exn c.Result × σ
  | .getInstance _, s => (.ok none, s)
  | .receiveMessage _ _ _ _, s => (.ok [], s)
  | .updateInstance _ _, s => (.ok (), s)
  | .deleteInstance _, s => (.ok (), s)
  | .updateBinding _ _ _, s => (.ok (), s)
  | .putObject _ _, s => (.ok (), s)
  | .deleteObject _, s => (.ok (), s)
  | .deleteMessage _ _, s => (.ok (), s)

def deprovisionText : String :=
  "\x7b\"op\":\"deprovision\",\"instance_id\":\"a\"\x7d"

def deprovisionLibrary : Library Value where
  loads text :=
    if text = deprovisionText then
      .ok (.dict [("op", .str "deprovision"), ("instance_id", .str "a")])
    else .error .decodeError
  str
    | .str s => s
    | _ => ""
  safeDump := .ok
  logs _ _ := .ok ()
  err _ := ""

theorem deprovision_acknowledged :
    ∃ payload, Completed deprovisionLibrary {} ⟨"now", "token"⟩ payload
      [⟨.deleteObject "envoy-resources/a.yaml", .ok ()⟩, ⟨.deleteInstance (.str "a"), .ok ()⟩] := by
  have logged : ∃ entry ∈ log (σ := Unit) unfailing
      (Worker.handle deprovisionLibrary {} .provision ⟨"now", "token"⟩
        ⟨⟨"a", 0⟩, some deprovisionText, none⟩) (), entry.1.DeletesMessage :=
    ⟨⟨.deleteMessage .provision ⟨"a", 0⟩, .ok ()⟩, List.mem_of_getElem? (i := 2) rfl, trivial⟩
  obtain malformed | ⟨payload, loaded, unknown | ⟨-, completed⟩⟩ := acknowledged_after_work
    unfailing deprovisionLibrary {} .provision ⟨"now", "token"⟩
    ⟨⟨"a", 0⟩, some deprovisionText, none⟩ () logged
  · cases malformed
  · obtain rfl := Value.dict.inj (Except.ok.inj loaded)
    exact absurd ⟨_, by decide, rfl⟩ unknown
  · obtain rfl := Value.dict.inj (Except.ok.inj loaded)
    exact ⟨_, completed⟩

end Regnant.Osb.Untyped
