import Regnant.Proof.Calls
import Regnant.Proof.Records

/-!
# Exclusive creation

A conditional put succeeds only where there is no row, and only a deprovision handling or an unbind
request makes a row go. The message of a new row is sent by the execution whose put succeeded,
right after it.
-/

namespace Regnant.Osb
open CallTree
open Function (update_of_ne)

variable {settings : Settings} {records : List Entry} {self receipt : ExecutionName}
  {id bid now : String} {c : Call} {w : Aws} {p : Performed} {payload : Payload}

def Message.Footprint (settings : Settings) (m : Message) (c : Call) : Prop :=
  (∃ queue, c = .deleteMessage queue m.receiptHandle) ∨
    ∃ queue payload, m.payload = some payload ∧ payload.Footprint settings queue m.receiptHandle c

theorem calls_message (settings : Settings) (queue : QueueName) (draws : Draws) (m : Message) :
    (Worker.handle settings queue draws m).Calls (m.Footprint settings) := by
  obtain ⟨receipt, body⟩ := m
  cases body with
  | malformed text => exact calls_invoke (.inl ⟨queue, rfl⟩)
  | scalar value => trivial
  | object payload =>
      exact (calls_handle draws).mono fun c c_in => .inr ⟨queue, payload, rfl, c_in⟩

inductive Thread.Within (settings : Settings) (records : List Entry) :
    ThreadName → Thread → Prop where
  | request {self asked rest} (calls : rest.Calls asked.Footprint) :
      Within settings records (.request self) (.request asked rest)
  | handling {receipt delivery message rest} (calls : rest.Calls (message.Footprint settings)) :
      Within settings records (.handling receipt delivery) (.handling message rest)

theorem kept_within (settings : Settings) : Kept settings (Thread.Within settings) where
  started records self request now := .request (calls_app now request)
  taken records message delivery queue draws := .handling (calls_message settings queue draws _)
  own records p holds := by
    obtain ⟨before, name, thread, outcome⟩ := p
    cases holds with
    | request calls => exact .request (calls.advance _ _)
    | handling calls => exact .handling (calls.advance _ _)
  other records r name thread holds other := by
    cases holds with
    | request calls => exact .request calls
    | handling calls => exact .handling calls

theorem perform_present (self : ExecutionName) (present : w.instances id ≠ none)
    (other : c ≠ .deleteInstance id) : (perform self c w).2.instances id ≠ none := by
  rw [perform_instances]
  exact RowChange.apply_ne_none (fun deletes => other (Call.onInstance_delete deletes)) present

theorem perform_binding_present (self : ExecutionName) (present : w.bindings (bid, id) ≠ none)
    (other : c ≠ .deleteBinding bid id) : (perform self c w).2.bindings (bid, id) ≠ none := by
  rw [perform_bindings]
  exact RowChange.apply_ne_none (fun deletes => other (Call.onBinding_delete deletes)) present

theorem Thread.Within.deletes_row (within : p.thread.Within settings records p.name)
    (effective : p.outcome ≠ .fails false) (next : p.thread.next = some (.deleteInstance id)) :
    p.Deprovisions id := by
  obtain ⟨before, name, thread, outcome⟩ := p
  cases within with
  | request calls => cases calls.next next
  | @handling _ _ message rest calls =>
      obtain ⟨queue, same⟩ | ⟨queue, payload, body, c_in⟩ := calls.next next
      · cases same
      · cases c_in with
        | deleteInstance op member =>
            exact ⟨next, effective, message, rest, payload, rfl, body, op, member⟩

theorem Thread.Within.deletes_binding (within : p.thread.Within settings records p.name)
    (effective : p.outcome ≠ .fails false)
    (next : p.thread.next = some (.deleteBinding bid id)) : p.Unbinds bid id := by
  obtain ⟨before, name, thread, outcome⟩ := p
  cases within with
  | @request _ asked rest calls =>
      cases calls.next next with
      | @unbindDelete _ _ service plan => exact ⟨next, effective, service, plan, rest, rfl⟩
  | handling calls =>
      obtain ⟨queue, same⟩ | ⟨queue, payload, body, c_in⟩ := calls.next next
      · cases same
      · cases c_in

/-! ## Between two creations -/

structure Exclusive (settings : Settings) (present : Aws → Prop) (made gone : Performed → Prop) :
    Prop where
  absent : ∀ p, made p → ¬present p.before
  makes : ∀ p, made p → present p.after
  keeps : ∀ records p, p.thread.Within settings records p.name → present p.before → ¬gone p →
    present p.after
  tables : ∀ w w' : Aws, w'.instances = w.instances → w'.bindings = w.bindings → present w →
    present w'

section Exclusive
variable {present : Aws → Prop} {made gone : Performed → Prop}

def Recorded.Standing (present : Aws → Prop) (made gone : Performed → Prop) (s : Recorded) : Prop :=
  ∀ later p earlier, s.records = later ++ .performed p :: earlier → made p →
    (∀ d, .performed d ∈ later → ¬gone d) → present s.system.aws

def Once (made gone : Performed → Prop) : Entry → List Entry → Prop
  | .performed q, earlier => made q → ∀ between p before,
      earlier = between ++ .performed p :: before → made p → ∃ d, .performed d ∈ between ∧ gone d
  | _, _ => True

theorem Recorded.Standing.unseen {s s' : Recorded} (added : List Entry)
    (standing : s.Standing present made gone) (records : s'.records = added ++ s.records)
    (other : ∀ p, .performed p ∉ added)
    (kept : present s.system.aws → present s'.system.aws) : s'.Standing present made gone := by
  intro later p earlier split makes stays
  rw [records] at split
  obtain ⟨rest, rfl, split⟩ | ⟨rest, rfl, same⟩ := List.append_eq_append_iff.mp split
  · exact kept (standing rest p earlier (List.append_cancel_left (split.trans
      (List.append_assoc _ _ _))) makes fun d member => stays d (List.mem_append_right _ member))
  · cases rest with
    | nil =>
        exact kept (standing [] p earlier same.symm makes fun d member =>
          absurd member List.not_mem_nil)
    | cons r rest =>
        obtain ⟨rfl, -⟩ := List.cons.inj same
        exact absurd (by simp) (other p)

theorem Exclusive.moved {s s' : Recorded} (exclusive : Exclusive settings present made gone)
    (within : s.Holds (Thread.Within settings) fun _ _ => True)
    (standing : s.Standing present made gone)
    (once : Justified (Once made gone) s.records) (moved : s.Moved settings s') :
    s'.Standing present made gone ∧ Justified (Once made gone) s'.records := by
  cases moved with
  | idle => exact ⟨standing, once⟩
  | @started self request now _ free goes aws records =>
      refine ⟨standing.unseen _ (records.trans (List.append_cons _ _ _)) ?_ (aws ▸ id), ?_⟩
      · intro p
        obtain none | ⟨_, _, -, -, some⟩ :=
          (Thread.request request (app now request)).answers_cases (.request self)
        · simp [none]
        · simp [some]
      · rw [records]
        have first := once.cons (r := .started self request) trivial
        obtain none | ⟨_, _, -, -, some⟩ :=
          (Thread.request request (app now request)).answers_cases (.request self)
        · rwa [none]
        · rw [some]
          exact first.cons trivial
  | taken goes instances bindings records =>
      refine ⟨standing.unseen [] records (by simp) ?_, records ▸ once⟩
      exact exclusive.tables _ _ instances bindings
  | @performed p _ before looked goes aws records =>
      have here := within.threads _ _ looked
      have after : s'.system.aws = p.after := aws
      have first : Justified (Once made gone) (.performed p :: s.records) := by
        refine once.cons fun makes between q earlier split makes' => ?_
        by_contra! stays
        exact exclusive.absent p makes (before ▸ standing between q earlier split makes' stays)
      have stands : Recorded.Standing present made gone ⟨s'.system, .performed p :: s.records⟩ := by
        intro later q earlier split makes stays
        show present s'.system.aws
        rw [after]
        cases later with
        | nil =>
            obtain ⟨same, -⟩ := List.cons.inj split
            obtain rfl := Entry.performed.inj same
            exact exclusive.makes p makes
        | cons r later =>
            obtain ⟨rfl, rest⟩ := List.cons.inj split
            have there := standing later q earlier rest makes fun d member =>
              stays d (List.mem_cons_of_mem _ member)
            exact exclusive.keeps _ p here (before ▸ there) (stays p List.mem_cons_self)
      obtain none | ⟨_, _, -, -, some⟩ := p.next.answers_cases p.name
      · rw [none, List.nil_append] at records
        exact ⟨stands.unseen [] records (by simp) id, records ▸ first⟩
      · rw [some] at records
        refine ⟨stands.unseen _ records (by simp) id, ?_⟩
        rw [records]
        exact first.cons trivial

theorem Exclusive.once (exclusive : Exclusive settings present made gone) (w : Aws)
    (actions : List Action) {later between earlier : List Entry} {p q : Performed}
    (split : (Recorded.after settings w actions).records =
      later ++ .performed q :: between ++ .performed p :: earlier)
    (makes : made p) (makes' : made q) : ∃ d, .performed d ∈ between ∧ gone d := by
  have all : (Recorded.after settings w actions).Holds (Thread.Within settings) (fun _ _ => True) ∧
      (Recorded.after settings w actions).Standing present made gone ∧
      Justified (Once made gone) (Recorded.after settings w actions).records := by
    refine Machine.exec_invariant (I := fun s : Recorded =>
      s.Holds (Thread.Within settings) (fun _ _ => True) ∧ s.Standing present made gone ∧
        Justified (Once made gone) s.records) _ (fun s i all _ => ?_)
      ⟨⟨fun _ _ looked => (by simp at looked), .nil⟩, ?_, .nil⟩ (.true _ _ actions)
    · have moved := recorded_moved settings s i
      exact ⟨all.1.moved (kept_within settings) (fun _ _ _ => trivial) (fun _ _ _ => trivial)
        (fun _ _ _ _ _ _ => trivial) moved, exclusive.moved all.1 all.2.1 all.2.2 moved⟩
    · intro later p earlier split
      simp at split
  refine all.2.2 later (.performed q) (between ++ .performed p :: earlier) ?_ makes' between p
    earlier rfl makes
  rw [split, List.append_assoc, List.cons_append]

end Exclusive

theorem exclusive_instance (settings : Settings) (id : String) :
    Exclusive settings (fun w => w.instances id ≠ none)
      (fun p => ∃ item, p.CreatesInstance id item) (fun p => p.Deprovisions id) where
  absent p := by
    rintro ⟨item, -, -, absent⟩ present
    exact present absent
  makes p := by
    rintro ⟨item, next, ok, absent⟩
    rw [p.after_effective next (by simp [ok])]
    simp [perform, absent]
  keeps records p within present stays := by
    obtain same | ⟨c, next, effective, same⟩ := p.after_cases
    · rwa [same]
    · rw [same]
      refine perform_present _ present ?_
      rintro rfl
      exact stays (within.deletes_row effective next)
  tables w w' instances bindings present := by rwa [instances]

theorem exclusive_binding (settings : Settings) (bid id : String) :
    Exclusive settings (fun w => w.bindings (bid, id) ≠ none)
      (fun p => ∃ item, p.CreatesBinding bid id item) (fun p => p.Unbinds bid id) where
  absent p := by
    rintro ⟨item, -, -, absent⟩ present
    exact present absent
  makes p := by
    rintro ⟨item, next, ok, absent⟩
    rw [p.after_effective next (by simp [ok])]
    simp [perform, absent]
  keeps records p within present stays := by
    obtain same | ⟨c, next, effective, same⟩ := p.after_cases
    · rwa [same]
    · rw [same]
      refine perform_binding_present _ present ?_
      rintro rfl
      exact stays (within.deletes_binding effective next)
  tables w w' instances bindings present := by rwa [bindings]

/-! ## Programs that create -/

def Call.Quiet : Call → Prop
  | .putInstance _ _ => False
  | .putBinding _ _ _ => False
  | .sendMessage _ payload => payload.op ≠ some .provision ∧ payload.op ≠ some .bind
  | _ => True

inductive Creating : Handler Response → Prop where
  | ended {rest} (ended : rest.next = none) : Creating rest
  | read {c k} (reads : c.reads = true) (rest : ∀ r, Creating (k r)) : Creating (.call c k)
  | putInstance {id item k queue payload k'} (describes : Payload.Describes payload id item)
      (won : k (.ok ()) = .call (.sendMessage queue payload) k')
      (last : ∀ r, (k' r).next = none) (lost : ∀ e, (k (.error e)).next = none) :
      Creating (.call (.putInstance id item) k)
  | putBinding {bid id item k queue payload k'}
      (describes : Payload.DescribesBinding payload bid id item)
      (won : k (.ok ()) = .call (.sendMessage queue payload) k')
      (last : ∀ r, (k' r).next = none) (lost : ∀ e, (k (.error e)).next = none) :
      Creating (.call (.putBinding bid id item) k)

variable {status : Nat} {α : Type}

theorem next_respond_none {route : Handler Body} (ended : route.next = none) :
    (respond status route).next = none := by
  obtain ⟨a, rfl⟩ | ⟨e, rfl⟩ := ended_cases ended
  · rfl
  · cases e <;> rfl

theorem creating_read {t : Handler α} {f : α → Handler Body} (single : Single c t)
    (reads : c.reads = true) (rest : ∀ a, Creating (respond status (f a))) :
    Creating (respond status (t >>= f)) := by
  obtain ⟨k, rfl, ended⟩ := single
  refine .read reads fun r => ?_
  show Creating (respond status (k r >>= f))
  obtain ⟨a, read⟩ | ⟨e, read⟩ := ended_cases (ended r)
  · rw [read]
    exact rest a
  · rw [read]
    exact .ended (next_respond_none rfl)

theorem creating_provision (payload : ProvisionRequest) (incomplete : Bool) :
    Creating (app now (.provision id payload incomplete)) := by
  rw [app]
  split
  · unfold provisionInstance
    split
    · exact .ended (next_respond_none rfl)
    · refine creating_read (InstanceStore.single_getOrNone id) rfl fun existing => ?_
      cases existing with
      | some existing =>
          dsimp only
          split <;> exact .ended (next_respond_none rfl)
      | none =>
          refine .putInstance ⟨rfl, rfl, rfl, rfl, rfl, rfl⟩ rfl (fun r => ?_) fun e => ?_
          · rcases r with e | _
            · cases e <;> rfl
            · rfl
          · cases e <;> rfl
  · exact .ended rfl

theorem creating_bind (payload : BindRequest) : Creating (app now (.bind id bid payload)) := by
  rw [app, bindInstance]
  refine creating_read (InstanceStore.single_get id) rfl fun inst => ?_
  split
  · exact .ended (next_respond_none rfl)
  · refine creating_read (BindingStore.single_getOrNone bid id) rfl fun existing => ?_
    split
    · exact .ended (next_respond_none rfl)
    · refine .putBinding ⟨rfl, rfl, rfl, rfl, rfl, rfl⟩ rfl (fun r => ?_) fun e => ?_
      · rcases r with e | _
        · cases e <;> rfl
        · rfl
      · cases e <;> rfl

theorem creating_or_quiet (now : String) (asked : Request) :
    Creating (app now asked) ∨ (app now asked).Calls Call.Quiet := by
  cases asked with
  | provision id payload incomplete => exact .inl (creating_provision payload incomplete)
  | bind id bid payload => exact .inl (creating_bind payload)
  | _ =>
      refine .inr ((calls_app now _).mono fun c c_in => ?_)
      cases c_in <;> simp [Call.Quiet, Payload.update, Payload.deprovision, Payload.unbind]

theorem Message.Footprint.quiet {m : Message} (c_in : m.Footprint settings c) : c.Quiet := by
  obtain ⟨queue, rfl⟩ | ⟨queue, payload, -, c_in⟩ := c_in
  · trivial
  · cases c_in <;> trivial

/-! ## Executions that create -/

def Silent (calls : List Performed) : Prop :=
  ∀ l ∈ calls, l.Loses → ∀ p ∈ calls, ∀ payload, ¬p.Sends payload

section Calls
variable {calls : List Performed} {create : Performed}

theorem changes_cons_change (next : p.thread.next = some c) (change : c.reads = false) :
    changes (p :: calls) = p :: changes calls := by
  simp [changes, next, change]

theorem changes_cons_read (next : p.thread.next = some c) (reads : c.reads = true) :
    changes (p :: calls) = changes calls := by
  simp [changes, next, reads]

theorem changes_cons_ended (ended : p.thread.next = none) :
    changes (p :: calls) = changes calls := by
  simp [changes, ended]

theorem Performed.Loses.change (loses : p.Loses) (member : p ∈ calls) : p ∈ changes calls := by
  refine List.mem_filter.mpr ⟨member, ?_⟩
  obtain ⟨id, item, next, -⟩ | ⟨bid, id, item, next, -⟩ := loses
  all_goals simp [next, Call.reads]

theorem Performed.Sends.change (sends : p.Sends payload) (member : p ∈ calls) :
    p ∈ changes calls := by
  obtain ⟨⟨queue, next⟩, -⟩ := sends
  exact List.mem_filter.mpr ⟨member, by simp [next, Call.reads]⟩

theorem Performed.Loses.not_creates (loses : p.Loses) : ¬p.Creates payload := by
  rintro (⟨id, item, ⟨next, -, absent⟩, -⟩ | ⟨bid, id, item, ⟨next, -, absent⟩, -⟩)
  · obtain ⟨id', item', next', present⟩ | ⟨bid', id', item', next', -⟩ := loses
    · cases next.symm.trans next'
      exact present absent
    · cases next.symm.trans next'
  · obtain ⟨id', item', next', -⟩ | ⟨bid', id', item', next', present⟩ := loses
    · cases next.symm.trans next'
    · cases next.symm.trans next'
      exact present absent

theorem mem_changes_cons {l : Performed} (member : l ∈ changes (p :: calls)) :
    l = p ∨ l ∈ changes calls := by
  obtain ⟨member, change⟩ := List.mem_filter.mp member
  rcases List.mem_cons.mp member with same | member
  · exact .inl same
  · exact .inr (List.mem_filter.mpr ⟨member, change⟩)

theorem Performed.Loses.not_quiet (loses : p.Loses) :
    ¬∀ c, p.thread.next = some c → c.Quiet := by
  intro quiet
  obtain ⟨id, item, next, -⟩ | ⟨bid, id, item, next, -⟩ := loses
  all_goals exact quiet _ next

theorem Silent.cons_ended (silent : Silent calls) (ended : p.thread.next = none) :
    Silent (p :: calls) := by
  intro l lost loses q sent payload sends
  have idle {q : Performed} (member : q ∈ changes (p :: calls)) : q ∈ calls := by
    rw [changes_cons_ended ended] at member
    exact (List.mem_filter.mp member).1
  exact silent l (idle (loses.change lost)) loses q (idle (sends.change sent)) payload sends

theorem silent_of_no_loss (none : ∀ l ∈ changes calls, ¬l.Loses) : Silent calls :=
  fun l member loses => absurd loses (none l (loses.change member))

theorem silent_of_no_send (none : ∀ p ∈ changes calls, ∀ payload, ¬p.Sends payload) :
    Silent calls :=
  fun _ _ _ p member payload sends => none p (sends.change member) payload sends

end Calls

inductive Racing (records : List Entry) : ThreadName → Thread → Prop where
  | begun {self asked rest} (unchanged : changes (execution self records) = [])
      (creating : Creating rest) : Racing records (.request self) (.request asked rest)
  | won {self asked queue payload create}
      {k : Except Exn (Call.sendMessage queue payload).Result → Handler Response}
      (made : changes (execution self records) = [create]) (creates : create.Creates payload)
      (last : ∀ r, (k r).next = none) :
      Racing records (.request self) (.request asked (.call (.sendMessage queue payload) k))
  | finished {self asked rest} (ended : rest.next = none)
      (silent : Silent (execution self records)) :
      Racing records (.request self) (.request asked rest)
  | quiet {self asked rest} (calls : rest.Calls Call.Quiet)
      (unlost : ∀ l ∈ changes (execution self records), ¬l.Loses) :
      Racing records (.request self) (.request asked rest)
  | handling {receipt delivery message rest} (calls : rest.Calls Call.Quiet) :
      Racing records (.handling receipt delivery) (.handling message rest)

theorem advance_ended {rest : Handler Response} (ended : rest.next = none)
    (f : (c : Call) → Aws → Except Exn c.Result × Aws) : (rest.advance f w).1 = rest := by
  obtain ⟨a, rfl⟩ | ⟨e, rfl⟩ := ended_cases ended <;> rfl

theorem perform_putInstance_ok {outcome : Outcome} {item : InstanceItem}
    (ok : (outcome.perform self (.putInstance id item) w).1 = .ok ()) :
    outcome = .ok ∧ w.instances id = none := by
  cases outcome with
  | fails effect => cases effect <;> cases ok
  | ok =>
      refine ⟨rfl, ?_⟩
      cases row : w.instances id with
      | none => rfl
      | some item' => simp [Outcome.perform, perform, row] at ok

theorem perform_putBinding_ok {outcome : Outcome} {item : BindingItem}
    (ok : (outcome.perform self (.putBinding bid id item) w).1 = .ok ()) :
    outcome = .ok ∧ w.bindings (bid, id) = none := by
  cases outcome with
  | fails effect => cases effect <;> cases ok
  | ok =>
      refine ⟨rfl, ?_⟩
      cases row : w.bindings (bid, id) with
      | none => rfl
      | some item' => simp [Outcome.perform, perform, row] at ok

theorem Racing.put {asked : Request} {queue : QueueName}
    {k : Except Exn Unit → Handler Response} {k' : Except Exn Unit → Handler Response}
    (own : p.name = .request self) (unchanged : changes (execution self records) = [])
    (next : p.thread.next = some c) (change : c.reads = false)
    (quiet : ∀ payload, ¬p.Sends payload) (r : Except Exn Unit)
    (creates : r = .ok () → p.Creates payload)
    (won : k (.ok ()) = .call (.sendMessage queue payload) k') (last : ∀ r, (k' r).next = none)
    (lost : ∀ e, (k (.error e)).next = none) :
    Racing (.performed p :: records) (.request self) (.request asked (k r)) := by
  have made : changes (execution self (.performed p :: records)) = [p] := by
    rw [execution_performed own, changes_cons_change next change, unchanged]
  rcases r with e | _
  · refine .finished (lost e) (silent_of_no_send fun q member => ?_)
    rw [made, List.mem_singleton] at member
    exact member ▸ quiet
  · rw [won]
    exact .won made (creates rfl) last

theorem kept_racing (settings : Settings) : Kept settings Racing where
  started records self request now := by
    have fresh := execution_started self request records
    obtain creating | quiet := creating_or_quiet now request
    · exact .begun (by rw [fresh]; rfl) creating
    · exact .quiet quiet (by simp [fresh, changes])
  taken records message delivery queue draws :=
    .handling ((calls_message settings queue draws message).mono fun _ c_in => c_in.quiet)
  own records p holds := by
    obtain ⟨before, name, thread, outcome⟩ := p
    cases holds with
    | @begun self asked rest unchanged creating =>
        cases creating with
        | ended ended =>
            refine .begun ?_ ((advance_ended ended _).symm ▸ .ended ended)
            have idle : (Thread.request asked rest).next = none := ended
            rw [execution_performed rfl, changes_cons_ended idle, unchanged]
        | @read c k reads rest =>
            refine .begun ?_ (rest _)
            rw [execution_performed rfl, changes_cons_read (c := c) rfl reads, unchanged]
        | putInstance describes won last lost =>
            refine Racing.put rfl unchanged rfl rfl (fun payload sends => ?_) _ (fun ok => ?_) won
              last lost
            · obtain ⟨⟨queue, next⟩, -⟩ := sends
              cases next
            · obtain ⟨rfl, absent⟩ := perform_putInstance_ok ok
              exact .inl ⟨_, _, ⟨rfl, rfl, absent⟩, describes⟩
        | putBinding describes won last lost =>
            refine Racing.put rfl unchanged rfl rfl (fun payload sends => ?_) _ (fun ok => ?_) won
              last lost
            · obtain ⟨⟨queue, next⟩, -⟩ := sends
              cases next
            · obtain ⟨rfl, absent⟩ := perform_putBinding_ok ok
              exact .inr ⟨_, _, _, ⟨rfl, rfl, absent⟩, describes⟩
    | @won self asked queue payload create k made creates last =>
        refine .finished (last _) (silent_of_no_loss fun l member loses => ?_)
        rw [execution_performed rfl, changes_cons_change (c := .sendMessage queue payload) rfl rfl,
          made, List.mem_pair] at member
        rcases member with rfl | rfl
        · obtain ⟨id, item, next, -⟩ | ⟨bid, id, item, next, -⟩ := loses
          all_goals cases next
        · exact loses.not_creates creates
    | @finished self asked rest ended silent =>
        refine .finished ((advance_ended ended _).symm ▸ ended) ?_
        have idle : (Thread.request asked rest).next = none := ended
        rw [execution_performed rfl]
        exact silent.cons_ended idle
    | @quiet self asked rest calls unlost =>
        refine .quiet (calls.advance _ _) ?_
        rw [execution_performed rfl]
        intro l member loses
        rcases mem_changes_cons member with rfl | member
        · exact loses.not_quiet fun c next => calls.next next
        · exact unlost l member loses
    | handling calls => exact .handling (calls.advance _ _)
  other records r name thread holds other := by
    cases holds with
    | begun unchanged creating => exact .begun (by rwa [execution_other other]) creating
    | won made creates last => exact .won (by rwa [execution_other other]) creates last
    | finished ended silent => exact .finished ended (by rwa [execution_other other])
    | quiet calls unlost => exact .quiet calls (by rwa [execution_other other])
    | handling calls => exact .handling calls

theorem Racing.silent {thread : Thread} (racing : Racing records (.request self) thread) :
    Silent (execution self records) := by
  cases racing with
  | begun unchanged => exact silent_of_no_loss (by simp [unchanged])
  | won made creates =>
      refine silent_of_no_loss fun l member loses => ?_
      rw [made, List.mem_singleton] at member
      subst member
      exact loses.not_creates creates
  | finished ended silent => exact silent
  | quiet calls unlost => exact silent_of_no_loss unlost

/-! ## Messages -/

/-- The execution that sends the message has changed nothing but create the row it is about. -/
def Backed (p : Performed) (earlier : List Entry) : Prop :=
  ∀ payload, p.Sends payload → payload.op = some .provision ∨ payload.op = some .bind →
    ∃ self create, p.name = .request self ∧ changes (execution self earlier) = [create] ∧
      create.Creates payload

theorem Call.Quiet.not_sends (quiet : c.Quiet) (next : p.thread.next = some c)
    (op : payload.op = some .provision ∨ payload.op = some .bind) : ¬p.Sends payload := by
  rintro ⟨⟨queue, next'⟩, -⟩
  obtain rfl := Option.some.inj (next.symm.trans next')
  exact op.elim quiet.1 quiet.2

theorem Racing.backed (racing : Racing records p.name p.thread) : Backed p records := by
  obtain ⟨before, name, thread, outcome⟩ := p
  intro payload sends op
  obtain ⟨⟨queue, next⟩, -⟩ := id sends
  cases racing with
  | begun unchanged creating =>
      cases creating with
      | ended ended => cases ended.symm.trans next
      | @read c k reads =>
          cases next
          cases reads
      | putInstance => cases next
      | putBinding => cases next
  | won made creates last =>
      cases next
      exact ⟨_, _, rfl, made, creates⟩
  | finished ended => cases ended.symm.trans next
  | quiet calls => exact absurd sends ((calls.next next).not_sends next op)
  | handling calls => exact absurd sends ((calls.next next).not_sends next op)

def Fair : Entry → List Entry → Prop
  | .performed p, earlier =>
      Backed p earlier ∧ ∀ self, p.name = .request self →
        Silent (execution self (.performed p :: earlier))
  | _, _ => True

theorem fair_after (settings : Settings) (w : Aws) (actions : List Action) :
    Justified Fair (Recorded.after settings w actions).records := by
  refine (recorded_holds (kept_racing settings) (fun _ _ _ => trivial) (fun records p racing => ?_)
    (fun _ _ _ _ _ _ => trivial) w actions).justified
  refine ⟨racing.backed, fun self own => ?_⟩
  have after := (kept_racing settings).own records p racing
  rw [own] at after
  exact after.silent

theorem Justified.silent (fair : Justified Fair records) (self : ExecutionName) :
    Silent (execution self records) := by
  induction records with
  | nil => exact fun _ member => absurd member List.not_mem_nil
  | cons r records ih =>
      have rest : Justified Fair records := fun later r' earlier split =>
        fair (r :: later) r' earlier (congrArg (r :: ·) split)
      by_cases about : r.About (.request self)
      · cases r with
        | started self' request =>
            obtain rfl : self' = self := ThreadName.request.inj about
            rw [execution_started]
            exact fun _ member => absurd member List.not_mem_nil
        | performed p => exact (fair [] (.performed p) records rfl).2 self about
        | answered self' answer =>
            rw [execution_answered]
            exact ih rest
      · rw [execution_other about]
        exact ih rest

/-- Of two creations of a row the second found that it was removed in between; every message of a
new row was sent by the execution that created this row and changed nothing else; executions that
lose a race send nothing. -/
structure CreationExclusive (records : List Entry) : Prop where
  instances : ∀ id later q between p earlier item item',
    records = later ++ .performed q :: between ++ .performed p :: earlier →
    p.CreatesInstance id item → q.CreatesInstance id item' →
      ∃ d, .performed d ∈ between ∧ d.Deprovisions id
  bindings : ∀ bid id later q between p earlier item item',
    records = later ++ .performed q :: between ++ .performed p :: earlier →
    p.CreatesBinding bid id item → q.CreatesBinding bid id item' →
      ∃ d, .performed d ∈ between ∧ d.Unbinds bid id
  messages : ∀ later p earlier, records = later ++ .performed p :: earlier → Backed p earlier
  losers : ∀ later earlier self, records = later ++ earlier → Silent (execution self earlier)

theorem creation_exclusive (settings : Settings) (w : Aws) (actions : List Action) :
    CreationExclusive (Recorded.after settings w actions).records where
  instances id later q between p earlier item item' split makes makes' :=
    (exclusive_instance settings id).once w actions split ⟨item, makes⟩ ⟨item', makes'⟩
  bindings bid id later q between p earlier item item' split makes makes' :=
    (exclusive_binding settings bid id).once w actions split ⟨item, makes⟩ ⟨item', makes'⟩
  messages later p earlier split :=
    (fair_after settings w actions later (.performed p) earlier split).1
  losers later earlier self split := by
    have fair := fair_after settings w actions
    rw [split] at fair
    refine Justified.silent (fun later' r earlier' split' => ?_) self
    exact fair (later ++ later') r earlier' (by rw [split', List.append_assoc])

end Regnant.Osb
