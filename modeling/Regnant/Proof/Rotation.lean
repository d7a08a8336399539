import Regnant.Lib.Machine
import Regnant.Proof.Creation

namespace Regnant.Osb
open CallTree
open Function (update_of_ne)

def Aws.Bound (w : Aws) (pair : String × String) (credentials : Option Credentials) : Prop :=
  ∃ item, w.bindings pair = some item ∧ item.state = some .bound ∧ item.credentials = credentials

namespace System

def Unbinds (s : System) (pair : String × String) : Action → Prop
  | .call name outcome => ∃ thread, s.threads.lookup name = some thread ∧
      Performed.Unbinds ⟨s.aws, name, thread, outcome⟩ pair.1 pair.2
  | _ => False

/-- The action completes a binding that is bound already and has other credentials. -/
def Rotates (s : System) : Action → Prop
  | .call name outcome => outcome ≠ .fails false ∧ ∃ bid id u item,
      s.next name = some (.updateBinding bid id u) ∧ s.aws.bindings (bid, id) = some item ∧
        item.state = some .bound ∧ item.credentials ≠ some u.credentials
  | _ => False

def CredentialsLast (settings : Settings) (s : System) (actions : List Action) : Prop :=
  ∀ before rest, actions = before ++ rest → ∀ x : (String × String) × Option Credentials,
    (Machine.exec (step settings) s before).aws.Bound x.1 x.2 →
      Machine.Unless (step settings) (fun s => s.aws.Bound x.1 x.2) (fun s => s.Unbinds x.1)
        (Machine.exec (step settings) s before) rest

end System

variable {settings : Settings} {self : ExecutionName} {s : System} {c : Call} {w : Aws}
  {pair : String × String} {credentials : Option Credentials} {p : Performed}

def Call.Completes : Call → Prop
  | .updateBinding _ _ u => u.state = .bound
  | _ => True

theorem completes_message (settings : Settings) (queue : QueueName) (draws : Draws) (m : Message) :
    (Worker.handle settings queue draws m).Calls Call.Completes := by
  obtain ⟨receipt, body⟩ := m
  cases body with
  | malformed text => exact calls_invoke trivial
  | scalar value => trivial
  | object payload =>
      by_cases op : payload.op = some .bind
      · have dispatched : (Worker.dispatch settings draws payload).Calls Call.Completes := by
          simp only [Worker.dispatch, op]
          refine calls_subscript fun id _ => calls_subscript fun bid _ => ?_
          exact calls_invoke rfl
        refine calls_bind (calls_attempt dispatched) fun result => ?_
        cases result with
        | error e => trivial
        | ok _ => exact calls_invoke trivial
      · refine (calls_handle draws).mono fun c c_in => ?_
        cases c_in with
        | updateBinding op' => exact absurd op' op
        | _ => trivial

inductive Thread.Completes : Thread → Prop where
  | request {asked rest} (calls : rest.Calls Call.Completes) : Completes (.request asked rest)
  | handling {message rest} (calls : rest.Calls Call.Completes) : Completes (.handling message rest)

theorem Thread.Completes.next {thread : Thread} (completes : thread.Completes)
    (next : thread.next = some c) : c.Completes := by
  cases completes with
  | request calls => exact calls.next next
  | handling calls => exact calls.next next

theorem kept_completes (settings : Settings) :
    Kept settings fun records name thread =>
      thread.Within settings records name ∧ thread.Completes where
  started records self request now := by
    refine ⟨(kept_within settings).started records self request now, .request ?_⟩
    refine (calls_app now request).mono fun c c_in => ?_
    cases c_in <;> trivial
  taken records message delivery queue draws :=
    ⟨(kept_within settings).taken records message delivery queue draws,
      .handling (completes_message settings queue draws message)⟩
  own records p holds := by
    refine ⟨(kept_within settings).own records p holds.1, ?_⟩
    obtain ⟨before, name, thread, outcome⟩ := p
    cases holds.2 with
    | request calls => exact .request (calls.advance _ _)
    | handling calls => exact .handling (calls.advance _ _)
  other records r name thread holds other :=
    ⟨(kept_within settings).other records r name thread holds.1 other, holds.2⟩

def System.Completes (settings : Settings) (s : System) : Prop :=
  ∃ records, Recorded.Holds (fun records name thread =>
    thread.Within settings records name ∧ thread.Completes) (fun _ _ => True) ⟨s, records⟩

theorem System.Completes.step (completes : s.Completes settings) (i : Action) :
    (s.step settings i).Completes settings := by
  obtain ⟨records, holds⟩ := completes
  exact ⟨_, holds.moved (kept_completes settings) (fun _ _ _ => trivial) (fun _ _ _ => trivial)
    (fun _ _ _ _ _ _ => trivial) (recorded_moved settings ⟨s, records⟩ i)⟩

theorem perform_bound (self : ExecutionName) (bound : w.Bound pair credentials)
    (other : c ≠ .deleteBinding pair.1 pair.2) (completes : c.Completes)
    (same : ∀ u, c = .updateBinding pair.1 pair.2 u → credentials = some u.credentials) :
    (perform self c w).2.Bound pair credentials := by
  rw [Aws.Bound, perform_bindings]
  refine RowChange.apply_keeps ?_ bound
  cases c with
  | putBinding => exact .onKey fun _ => trivial
  | updateBinding bid id u =>
      refine .onKey fun own item bound => ?_
      subst own
      exact ⟨congrArg some completes, (same u rfl).symm⟩
  | deleteBinding bid id =>
      refine .onKey fun own => ?_
      subst own
      exact other rfl
  | _ => trivial

theorem step_bindings (s : System) {i : Action} (quiet : ∀ name outcome, i ≠ .call name outcome) :
    (s.step settings i).aws.bindings = s.aws.bindings := by
  cases i with
  | start request serial now =>
      simp only [System.step]
      split
      next => rfl
      next => rw [System.resume_aws]
  | receive queue receipt delivery draws =>
      simp only [System.step]
      split
      next => rfl
      next =>
        cases (s.aws.tasks queue).find? (·.receiptHandle = receipt) with
        | none => rfl
        | some message =>
            exact (congrArg _ (System.resume_aws _ _ _)).trans (Aws.setTasks_bindings _ _ _)
  | again queue receipt delivery draws =>
      simp only [System.step]
      split
      next => rfl
      next =>
        cases s.received.find? fun r => r.1 = queue ∧ r.2.receiptHandle = receipt with
        | none => rfl
        | some r => exact congrArg _ (System.resume_aws _ _ _)
  | call name outcome => exact absurd rfl (quiet name outcome)

theorem step_call_aws {name : ThreadName} {thread : Thread} (outcome : Outcome)
    (looked : s.threads.lookup name = some thread) :
    (s.step settings (.call name outcome)).aws =
      Performed.after ⟨s.aws, name, thread, outcome⟩ := by
  simp only [System.step, looked]
  exact System.resume_aws _ _ _

theorem bound_call {name : ThreadName} {outcome : Outcome} (completes : s.Completes settings)
    (kept : ¬s.Rotates (.call name outcome)) (bound : s.aws.Bound pair credentials) :
    s.Unbinds pair (.call name outcome) ∨
      (s.step settings (.call name outcome)).aws.Bound pair credentials := by
  obtain ⟨records, holds⟩ := completes
  cases looked : s.threads.lookup name with
  | none =>
      simp only [System.step, looked]
      exact .inr bound
  | some thread =>
      obtain ⟨within, completes⟩ := holds.threads name thread looked
      rw [step_call_aws outcome looked]
      obtain same | ⟨c, next, effective, after⟩ :=
        Performed.after_cases ⟨s.aws, name, thread, outcome⟩
      · exact .inr (same ▸ bound)
      · by_cases unbinds : c = .deleteBinding pair.1 pair.2
        · subst unbinds
          exact .inl ⟨thread, looked, within.deletes_binding effective next⟩
        · right
          rw [after]
          refine perform_bound _ bound unbinds (completes.next next) ?_
          rintro u rfl
          obtain ⟨item, row, state, rfl⟩ := bound
          by_contra changed
          have next : s.next name = some _ := (System.next_of_lookup looked).trans next
          exact kept ⟨effective, _, _, u, item, next, row, state, changed⟩

theorem rotates_breaks (settings : Settings) {i : Action} (rotates : s.Rotates i) :
    ∃ pair credentials, s.aws.Bound pair credentials ∧ ¬s.Unbinds pair i ∧
      ¬(s.step settings i).aws.Bound pair credentials := by
  cases i with
  | call name outcome =>
      obtain ⟨effective, bid, id, u, item, next, row, state, changed⟩ := rotates
      obtain ⟨thread, looked, next⟩ := Option.bind_eq_some_iff.mp next
      refine ⟨(bid, id), item.credentials, ⟨item, row, state, rfl⟩, ?_, ?_⟩
      · rintro ⟨thread', looked', unbinds⟩
        obtain rfl := Option.some.inj (looked.symm.trans looked')
        cases next.symm.trans unbinds.1
      · rintro ⟨item', row', -, same⟩
        rw [step_call_aws outcome looked, Performed.after_effective next effective] at row'
        simp only [perform, Function.update_self, Option.some.injEq] at row'
        subst row'
        exact changed same.symm
  | _ => exact rotates.elim

theorem bound_step (completes : s.Completes settings) (i : Action) :
    (∀ x : (String × String) × Option Credentials, s.aws.Bound x.1 x.2 →
      s.Unbinds x.1 i ∨ (s.step settings i).aws.Bound x.1 x.2) ↔ ¬s.Rotates i := by
  constructor
  · intro stable rotates
    obtain ⟨pair, credentials, bound, stays, lost⟩ := rotates_breaks settings rotates
    exact (stable (pair, credentials) bound).elim stays lost
  · rintro kept ⟨pair, credentials⟩ bound
    cases i with
    | call name outcome => exact bound_call completes kept bound
    | _ =>
        obtain ⟨item, row, bound⟩ := bound
        refine .inr ⟨item, ?_, bound⟩
        rwa [step_bindings s (by simp)]

/-- Credentials last exactly in the runs in which no binding that is bound already is completed with
other credentials. -/
theorem credentials_last_iff (settings : Settings) (w : Aws) (actions : List Action) :
    System.CredentialsLast settings ⟨w, ∅, [], []⟩ actions ↔
      Machine.Along (System.step settings) (fun s i => ¬s.Rotates i) ⟨w, ∅, [], []⟩ actions := by
  refine Machine.unless_iff_along (J := System.Completes settings)
    (P := fun x : (String × String) × Option Credentials => fun s : System => s.aws.Bound x.1 x.2)
    (Q := fun x s => s.Unbinds x.1) _ ?_ ?_ ?_
  · exact fun s i completes => completes.step i
  · exact fun s i completes => bound_step completes i
  · exact ⟨[], fun _ _ looked => (by simp at looked), .nil⟩

def handledTwice : List Action :=
  let put : ThreadName := .request ⟨"a", 0⟩
  let bind : ThreadName := .request ⟨"a", 1⟩
  let first : ThreadName := .handling ⟨"a", 1⟩ 0
  let second : ThreadName := .handling ⟨"a", 1⟩ 1
  let calls (names : List ThreadName) : List Action := names.map (.call · .ok)
  .start (.provision "a" ⟨"s", "p", ∅, ∅⟩ true) 0 "now" :: calls [put, put, put] ++
  .start (.bind "a" "b" ⟨"s", "p", ∅⟩) 1 "now" :: calls [bind, bind, bind, bind] ++
  .receive .binding ⟨"a", 1⟩ 0 ⟨"now", "token"⟩ :: calls [first, first] ++
  .again .binding ⟨"a", 1⟩ 1 ⟨"later", "another"⟩ :: calls [second]

theorem credentials_not_always_last :
    ¬∀ settings w actions, System.CredentialsLast settings ⟨w, ∅, [], []⟩ actions := by
  intro always
  let drawn (token : String) : Credentials :=
    { uri := "https://a.internal.regnant.local", username := "binding-b", password := token }
  have bound : (System.after {} .empty (handledTwice.take 12)).aws.Bound ("b", "a")
      (some (drawn "token")) := by
    refine ⟨_, rfl, ?_, ?_⟩ <;> decide
  have lasts := always {} .empty handledTwice (handledTwice.take 12) (handledTwice.drop 12)
    (by simp) (("b", "a"), some (drawn "token")) bound
  obtain ⟨-, unbinds | ⟨-, ⟨thread, looked, unbinds⟩ | ⟨item, row, -, credentials⟩⟩⟩ := lasts
  · exact unbinds
  · have next : (System.after {} .empty (handledTwice.take 13)).next (.handling ⟨"a", 1⟩ 1) =
        some (.updateBinding "b" "a" ⟨.bound, drawn "another", "later"⟩) := rfl
    cases next.symm.trans ((System.next_of_lookup looked).trans unbinds.1)
  · have rotated : ((System.after {} .empty handledTwice).aws.bindings ("b", "a")).bind
        (·.credentials) = some (drawn "another") := by decide
    have stored : item.credentials = some (drawn "another") :=
      (congrArg (Option.bind · BindingItem.credentials) row).symm.trans rotated
    exact absurd (stored.symm.trans credentials) (by decide)

end Regnant.Osb
