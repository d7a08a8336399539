import Regnant.Proof.Acknowledgement

/-!
# Poison messages

Whatever a handler raises is caught. What the worker does before its `try` is not: `json.loads` may
raise other errors than the one that is caught, and only an object has a `get`.
-/

namespace Regnant.Osb.Untyped
open CallTree

variable {Bytes σ : Type}

structure Library.LogsText (lib : Library Bytes) : Prop where
  str : ∀ level s, lib.logs level (.str s) = .ok ()
  none : ∀ level, lib.logs level .none = .ok ()

def Loggable (lib : Library Bytes) (payload : Worker.Members) : Prop :=
  lib.logs .error ((payload.lookup "op").getD .none) = .ok ()

/-- The body is malformed, or an object whose op can be logged. -/
def Message.Survivable (lib : Library Bytes) (message : Message) : Prop :=
  lib.loads (message.body.getD "\x7b\x7d") = .error .decodeError ∨
    ∃ payload, lib.loads (message.body.getD "\x7b\x7d") = .ok (.dict payload) ∧
      Loggable lib payload

variable {p : (c : Call Bytes) → σ → Except Exn c.Result × σ} {lib : Library Bytes}
  {settings : WorkerSettings} {queue : QueueName} {messageId : Option String}
  {payload : Worker.Members} {s : σ}

theorem forM_eq_ok {α : Type} {f : α → Except Exn Unit} {l : List α} :
    l.forM f = .ok () ↔ ∀ a ∈ l, f a = .ok () := by
  induction l with
  | nil => exact iff_of_true rfl (by simp)
  | cons a l ih =>
      rw [List.forall_mem_cons, ← ih]
      show (f a >>= fun _ => l.forM f) = .ok () ↔ _
      cases f a with
      | error e => exact iff_of_false nofun fun all => nomatch all.1
      | ok u => exact (and_iff_right rfl).symm

theorem Library.LogsText.line (texts : lib.LogsText) (level : LogLevel) (event : String)
    {fields : List (String × Value)}
    (plain : ∀ field ∈ fields, field.2 = .none ∨ ∃ text, field.2 = .str text) :
    logLine lib level event fields = .ret () := by
  have logged : (("event", .str event) :: fields).forM (fun field => lib.logs level field.2) =
      .ok () := by
    rw [forM_eq_ok, List.forall_mem_cons]
    refine ⟨texts.str level event, fun field member => ?_⟩
    rcases plain field member with null | ⟨text, same⟩
    · rw [null]
      exact texts.none level
    · rw [same]
      exact texts.str level text
  rw [logLine, logged]
  rfl

theorem Library.LogsText.bound_iff (texts : lib.LogsText) (event : String)
    {fields : List (String × Value)} (strings : ∀ field ∈ fields, ∃ text, field.2 = .str text) :
    (run p (logLine lib .error event (Worker.bound messageId payload ++ fields)) s).1 = .ok () ↔
      Loggable lib payload := by
  rw [run_logLine, forM_eq_ok]
  constructor
  · intro logged
    exact logged ("op", (payload.lookup "op").getD .none) (by simp [Worker.bound])
  · intro loggable field member
    simp only [Worker.bound, List.mem_cons, List.cons_append, List.nil_append] at member
    rcases member with rfl | rfl | rfl | member
    · exact texts.str _ _
    · exact loggable
    · cases messageId with
      | none => exact texts.none _
      | some messageId => exact texts.str _ _
    · obtain ⟨text, same⟩ := strings field member
      rw [same]
      exact texts.str _ _

theorem Library.LogsText.failure_iff (texts : lib.LogsText) (e : Exn) :
    (run p (Worker.logFailure lib messageId payload e) s).1 = .ok () ↔ Loggable lib payload := by
  cases e with
  | osb e => exact texts.bound_iff _ (by simp)
  | _ => exact texts.bound_iff _ (by simp)

theorem loggable_of_dispatch (texts : lib.LogsText) {draws : Draws}
    (ran : (run p (Worker.dispatch lib settings draws messageId payload) s).1 = .ok ()) :
    Loggable lib payload := by
  by_cases named : ∃ name, payload.lookup "op" = some (.str name)
  · obtain ⟨name, op⟩ := named
    rw [Loggable, op]
    exact texts.str _ _
  · have unknown : Worker.dispatch lib settings draws messageId payload =
        logLine lib .error "unknown op" (Worker.bound messageId payload ++ []) := by
      have other (name : String) : payload.lookup "op" ≠ some (.str name) :=
        fun op => named ⟨name, op⟩
      simp [Worker.dispatch, other]
    rw [unknown] at ran
    exact (texts.bound_iff _ (by simp)).mp ran

theorem handle_returns_iff (texts : lib.LogsText)
    (deletes : ∀ queue receipt s, (p (.deleteMessage queue receipt) s).1 = .ok ())
    (draws : Draws) (message : Message) (s : σ) :
    (run p (Worker.handle lib settings queue draws message) s).1 = .ok () ↔
      message.Survivable lib := by
  unfold Worker.handle Message.Survivable
  cases lib.loads (message.body.getD "\x7b\x7d") with
  | error e =>
      cases e with
      | decodeError =>
          have logged : logLine lib .error "malformed message body"
              [("body", .str (message.body.getD "\x7b\x7d"))] = .ret () :=
            texts.line _ _ (by simp)
          simp [logged, TaskQueue.delete, deletes]
      | other e => simp
  | ok v =>
      cases v with
      | dict payload =>
          simp only [run_bind, run_attempt]
          cases ran :
              (run p (Worker.dispatch lib settings draws message.messageId payload) s).1 with
          | error e => simpa using texts.failure_iff e
          | ok result =>
              have loggable : Loggable lib payload := loggable_of_dispatch texts ran
              simp [TaskQueue.delete, deletes, loggable]
      | _ => simp

def Worker.handled (p : (c : Call Bytes) → σ → Except Exn c.Result × σ) (lib : Library Bytes)
    (settings : WorkerSettings) (queue : QueueName) (draws : Message → Draws)
    (messages : List Message) (s : σ) : σ :=
  messages.foldl
    (fun s message => (CallTree.run p (handle lib settings queue (draws message) message) s).2) s

section Batches
variable (texts : lib.LogsText)
  (deletes : ∀ queue receipt s, (p (.deleteMessage queue receipt) s).1 = .ok ())
  {draws : Message → Draws} {messages : List Message} {s' : σ}
include texts deletes

theorem handleAll_survives (survivable : ∀ message ∈ messages, message.Survivable lib) :
    run p (Worker.handleAll lib settings queue draws messages) s =
      (.ok (), Worker.handled p lib settings queue draws messages s) := by
  induction messages generalizing s with
  | nil => rfl
  | cons message messages ih =>
      obtain ⟨first, rest⟩ := List.forall_mem_cons.mp survivable
      have returns : (run p (Worker.handle lib settings queue (draws message) message) s).1 =
          .ok () := (handle_returns_iff texts deletes _ message s).mpr first
      rw [Worker.handleAll, run_bind, ← Prod.mk.eta (p := run p _ s), returns]
      dsimp only
      rw [ih rest]
      rfl

theorem survivable_of_handleAll
    (ran : (run p (Worker.handleAll lib settings queue draws messages) s).1 = .ok ()) :
    ∀ message ∈ messages, message.Survivable lib := by
  induction messages generalizing s with
  | nil => simp
  | cons message messages ih =>
      obtain ⟨_, s', first, rest, -⟩ := run_bind_ok p ran
      refine List.forall_mem_cons.mpr ⟨?_, ih rest⟩
      exact (handle_returns_iff texts deletes (draws message) message s).mp
        (congrArg Prod.fst first)

theorem tick_survives (received : p (.receiveMessage queue settings.workerMaxMessages
      settings.workerPollSeconds settings.workerVisibilitySeconds) s = (.ok messages, s'))
    (survivable : ∀ message ∈ messages, message.Survivable lib) :
    run p (Worker.tick lib settings queue draws) s =
      (.ok messages.length, Worker.handled p lib settings queue draws messages s') := by
  rw [Worker.tick, TaskQueue.receive, run_bind, run_invoke, received]
  dsimp only
  rw [run_bind, handleAll_survives texts deletes survivable]
  rfl

theorem survivable_of_tick (received : p (.receiveMessage queue settings.workerMaxMessages
      settings.workerPollSeconds settings.workerVisibilitySeconds) s = (.ok messages, s')) {n : Nat}
    (ran : (run p (Worker.tick lib settings queue draws) s).1 = .ok n) :
    ∀ message ∈ messages, message.Survivable lib := by
  obtain ⟨batch, same, ran, -⟩ := run_invoke_bind_ok p ran
  rw [received] at same ran
  obtain rfl := Except.ok.inj same
  obtain ⟨_, s'', handled, -, -⟩ := run_bind_ok p ran
  exact survivable_of_handleAll texts deletes (congrArg Prod.fst handled)

theorem body_returns_iff (round : Worker.Round) :
    (∃ n, (run (round.answering p) (Worker.body lib settings round) s).1 = .ok n) ↔
      ∀ queue, ∀ message ∈ round.batch queue, message.Survivable lib := by
  have answers : ∀ queue receipt s,
      (round.answering p (.deleteMessage queue receipt) s).1 = .ok () := deletes
  constructor
  · rintro ⟨n, ran⟩
    obtain ⟨_, s', provisioned, ran, -⟩ := run_bind_ok _ ran
    obtain ⟨_, s'', bound, -, -⟩ := run_bind_ok _ ran
    intro queue
    cases queue with
    | provision => exact survivable_of_tick texts answers rfl (congrArg Prod.fst provisioned)
    | binding => exact survivable_of_tick texts answers rfl (congrArg Prod.fst bound)
  · intro survivable
    rw [Worker.body, run_bind, tick_survives texts answers rfl (survivable .provision)]
    dsimp only
    rw [run_bind, tick_survives texts answers rfl (survivable .binding)]
    exact ⟨_, rfl⟩

theorem run_survives_iff (rounds : List Worker.Round) :
    (Worker.run lib settings p rounds s).1 =
        (if rounds.any (·.stopping) then .stopped else .running) ↔
      ∀ round ∈ rounds.takeWhile (!·.stopping), ∀ queue, ∀ message ∈ round.batch queue,
        message.Survivable lib := by
  induction rounds generalizing s with
  | nil => simp [Worker.run]
  | cons round rounds ih =>
      cases stopping : round.stopping with
      | true => simp [Worker.run, stopping]
      | false =>
          simp only [Worker.run, stopping, List.any_cons, Bool.false_or, List.takeWhile_cons,
            Bool.not_false, if_true, List.forall_mem_cons, Bool.false_eq_true, if_false]
          have returns : (∃ n, (run (round.answering p) (Worker.body lib settings round) s).1 =
              .ok n) ↔ _ := body_returns_iff texts deletes round
          rw [← returns]
          cases ran : run (round.answering p) (Worker.body lib settings round) s with
          | mk result s' =>
              cases result with
              | error e =>
                  refine iff_of_false ?_ ?_
                  · dsimp only
                    split <;> simp
                  · simp
              | ok n =>
                  rw [and_iff_right ⟨n, rfl⟩]
                  exact ih

end Batches

/-- No message makes the worker raise exactly when every body is malformed or an object whose op can
be logged; then every batch is handled to its end and the loop ends on a stop request only. -/
theorem survives_iff (p : (c : Call Bytes) → σ → Except Exn c.Result × σ) (lib : Library Bytes)
    (settings : WorkerSettings) (texts : lib.LogsText)
    (deletes : ∀ queue receipt s, (p (.deleteMessage queue receipt) s).1 = .ok ()) :
    (∀ queue draws message s,
      (run p (Worker.handle lib settings queue draws message) s).1 = .ok () ↔
        message.Survivable lib) ∧
    (∀ queue draws messages s s', p (.receiveMessage queue settings.workerMaxMessages
        settings.workerPollSeconds settings.workerVisibilitySeconds) s = (.ok messages, s') →
      (run p (Worker.tick lib settings queue draws) s =
          (.ok messages.length, Worker.handled p lib settings queue draws messages s') ↔
        ∀ message ∈ messages, message.Survivable lib)) ∧
    ∀ rounds s, (Worker.run lib settings p rounds s).1 =
        (if rounds.any (·.stopping) then .stopped else .running) ↔
      ∀ round ∈ rounds.takeWhile (!·.stopping), ∀ queue, ∀ message ∈ round.batch queue,
        message.Survivable lib := by
  refine ⟨fun queue draws message s => handle_returns_iff texts deletes draws message s, ?_,
    fun rounds s => run_survives_iff texts deletes rounds⟩
  intro queue draws messages s s' received
  constructor
  · exact fun ran => survivable_of_tick texts deletes received (congrArg Prod.fst ran)
  · exact tick_survives texts deletes received

def listLibrary : Library Value where
  loads text := if text = "[]" then .ok (.list []) else .error .decodeError
  str
    | .str s => s
    | _ => ""
  safeDump := .ok
  logs _ _ := .ok ()
  err _ := ""

theorem listLibrary_logs : listLibrary.LogsText where
  str _ _ := rfl
  none _ := rfl

def round (text : String) : Worker.Round where
  stopping := false
  batch _ := [⟨⟨"a", 0⟩, some text, none⟩]
  draws _ _ := ⟨"now", "token"⟩

theorem malformed_survived :
    (Worker.run listLibrary {} unfailing [round "["] ()).1 = .running := by
  have survives := survives_iff (σ := Unit) unfailing listLibrary {} listLibrary_logs
    fun _ _ _ => rfl
  refine (survives.2.2 [round "["] ()).mpr ?_
  intro r member queue message received
  obtain rfl := List.mem_singleton.mp member
  obtain rfl := List.mem_singleton.mp received
  exact .inl rfl

theorem worker_not_always_survives :
    ¬∀ (lib : Library Value) settings (p : (c : Call Value) → Unit → Except Exn c.Result × Unit)
      rounds s, lib.LogsText →
      (∀ queue receipt s, (p (.deleteMessage queue receipt) s).1 = .ok ()) →
      (Worker.run lib settings p rounds s).1 =
        (if rounds.any (·.stopping) then .stopped else .running) := by
  intro always
  have survived := always listLibrary {} unfailing [round "[]"] () listLibrary_logs
    fun _ _ _ => rfl
  cases survived

end Regnant.Osb.Untyped
