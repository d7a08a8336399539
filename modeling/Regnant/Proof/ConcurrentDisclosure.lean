import Regnant.Proof.Disclosure
import Regnant.Proof.Rotation

namespace Regnant.Osb
open CallTree

def Answer.credentials (bid id : String) (a : Answer) : Option BindCredentials :=
  match a.request, a.response.body with
  | .bind id' bid' _, .bind credentials =>
      if (bid', id') = (bid, id) ∧ a.response.accepted then some credentials else none
  | .fetchBinding id' bid', .fetchBinding credentials _ =>
      if (bid', id') = (bid, id) ∧ a.response.accepted then credentials else none
  | _, _ => none

def Performed.change (p : Performed) (pair : String × String) : RowChange BindingItem :=
  if p.outcome = .fails false then .keep else p.thread.next.elim .keep (Call.onBinding pair)

def disclosedAfter (row : Option BindingItem) (known : Option (List BindCredentials)) :
    RowChange BindingItem → Option (List BindCredentials)
  | .put _ => if row = none then some [] else known
  | .delete => none
  | _ => known

def Entry.disclosed (bid id : String) (known : Option (List BindCredentials)) :
    Entry → Option (List BindCredentials)
  | .started _ _ => known
  | .performed p => disclosedAfter (p.before.bindings (bid, id)) known (p.change (bid, id))
  | .answered _ answer => known.map (· ++ (answer.credentials bid id).toList)

def disclosed (bid id : String) (records : List Entry) : Option (List BindCredentials) :=
  records.foldr (fun entry known => entry.disclosed bid id known) none

def Thread.bindRequest : Thread → Option BindRequest
  | .request (.bind _ _ payload) _ => some payload
  | _ => none

def Call.readsBinding : Call → Option (String × String)
  | .getBinding bid id => some (bid, id)
  | _ => none

def Call.completion : Call → Option ((String × String) × Credentials)
  | .updateBinding bid id u => some ((bid, id), u.credentials)
  | _ => none

/-- A bind reads the row of its binding, which it finds created but not completed. -/
def Performed.Repeats (p : Performed) : Prop :=
  p.outcome = .ok ∧ ∃ payload ∈ p.thread.bindRequest,
    ∃ pair ∈ p.thread.next.bind Call.readsBinding, ∃ item ∈ p.before.bindings pair,
      item.serviceId = some payload.serviceId ∧ item.planId = some payload.planId ∧
        item.state = some .binding
  deriving Decidable

/-- A binding is completed with another password than the placeholder. -/
def Performed.Replaces (p : Performed) : Prop :=
  p.outcome ≠ .fails false ∧ ∃ completion ∈ p.thread.next.bind Call.completion,
    ∃ item ∈ p.before.bindings completion.1, item.serviceId.isSome ∧
      completion.2.password ≠ some "pending-rotation"
  deriving Decidable

def System.Contradicts (s : System) : Action → Prop
  | .call name outcome => ∃ thread ∈ s.threads.lookup name,
      Performed.Repeats ⟨s.aws, name, thread, outcome⟩ ∨
        Performed.Replaces ⟨s.aws, name, thread, outcome⟩
  | _ => False

instance System.Contradicts.decidable (s : System) : DecidablePred s.Contradicts
  | .start _ _ _ => inferInstanceAs (Decidable False)
  | .receive _ _ _ _ => inferInstanceAs (Decidable False)
  | .again _ _ _ _ => inferInstanceAs (Decidable False)
  | .call name outcome => inferInstanceAs (Decidable (∃ thread ∈ s.threads.lookup name,
      Performed.Repeats ⟨s.aws, name, thread, outcome⟩ ∨
        Performed.Replaces ⟨s.aws, name, thread, outcome⟩))

/-! ## Programs -/

def Call.Makes : Call → Prop
  | .putBinding bid id item => item.Live id bid ∧ item.state = some .binding
  | .updateBinding bid id u => ∃ draws, u = bound draws id bid
  | _ => True

def Request.Shows (bid id : String) (r : Except Exn (Option BindingItem))
    (credentials : BindCredentials) (asked : Request) : Prop :=
  ∃ item binding, r = .ok (some item) ∧ bindingFromItem bid id item = .ok binding ∧
    credentials = .ofStored binding.credentials ∧
    match asked with
    | .bind _ _ payload => binding.serviceId = payload.serviceId ∧ binding.planId = payload.planId
    | _ => binding.credentials ≠ {}

def Request.Tells (asked : Request) :
    (c : Call) → (Except Exn c.Result → Handler Response) → Prop
  | .getBinding bid id, k => ∀ r response, k r = .ret response → ∀ bid' id',
      ∀ credentials ∈ Answer.credentials bid' id' ⟨asked, response⟩,
        (bid', id') = (bid, id) ∧ asked.Shows bid id r credentials
  | _, k => ∀ r response, k r = .ret response → ∀ bid id,
      ∀ credentials ∈ Answer.credentials bid id ⟨asked, response⟩, credentials = placeholder id bid

variable {settings : Settings} {id bid now : String} {c : Call} {w : Aws} {p : Performed}
  {asked : Request} {response : Response} {credentials : BindCredentials} {status : Nat}
  {known : Option (List BindCredentials)} {row : Option BindingItem} {e : Exn}

theorem Answer.credentials_rejected (rejected : ¬response.accepted) :
    Answer.credentials bid id ⟨asked, response⟩ = none := by
  unfold Answer.credentials
  split
  next => exact if_neg fun both => rejected both.2
  next => exact if_neg fun both => rejected both.2
  next => rfl

theorem Answer.credentials_raise (same : respond status (.raise e) = .ret response) :
    Answer.credentials bid id ⟨asked, response⟩ = none :=
  credentials_rejected (rejected_of_raise same)

def Reads {α : Type} (bid id : String) (t : Handler α)
    (Q : Except Exn (Option BindingItem) → α → Prop) : Prop :=
  ∃ k, t = .call (.getBinding bid id) k ∧ ∀ r, (∃ a, k r = .ret a ∧ Q r a) ∨ ∃ e, k r = .raise e

abbrev Found (bid id : String) (r : Except Exn (Option BindingItem)) (binding : Binding) : Prop :=
  ∃ item, r = .ok (some item) ∧ bindingFromItem bid id item = .ok binding

theorem BindingStore.reads_get (bid id : String) : Reads bid id (get bid id) (Found bid id) := by
  refine ⟨_, rfl, fun r => ?_⟩
  rcases r with e | _ | item
  · exact .inr ⟨e, rfl⟩
  · exact .inr ⟨_, rfl⟩
  · cases read : bindingFromItem bid id item with
    | ok binding => exact .inl ⟨binding, congrArg CallTree.ofExcept read, item, rfl, read⟩
    | error e => exact .inr ⟨e, congrArg CallTree.ofExcept read⟩

theorem BindingStore.reads_getOrNone (bid id : String) :
    Reads bid id (getOrNone bid id) fun r found => ∀ binding ∈ found, Found bid id r binding := by
  obtain ⟨k, program, replies⟩ := reads_get bid id
  refine ⟨_, by rw [getOrNone, program]; rfl, fun r => ?_⟩
  dsimp only
  rcases replies r with ⟨binding, same, found⟩ | ⟨e, same⟩
  · rw [same]
    refine .inl ⟨some binding, rfl, ?_⟩
    rintro _ ⟨⟩
    exact found
  · rw [same]
    dsimp only [attempt, CallTree.bind]
    split
    next same => cases same
    next => exact .inl ⟨none, rfl, fun _ member => by cases member⟩
    next => exact .inr ⟨_, rfl⟩

theorem Reads.every {α : Type} {t : Handler α} {f : α → Handler Body}
    {Q : Except Exn (Option BindingItem) → α → Prop} (reads : Reads bid id t Q)
    (tells : ∀ r a response, Q r a → respond status (f a) = .ret response → ∀ bid' id',
      ∀ credentials ∈ Answer.credentials bid' id' ⟨asked, response⟩,
        (bid', id') = (bid, id) ∧ asked.Shows bid id r credentials)
    (rest : ∀ a, (respond status (f a)).Every asked.Tells) :
    (respond status (t >>= f)).Every asked.Tells := by
  obtain ⟨k, rfl, replies⟩ := reads
  refine ⟨fun r response same bid' id' => ?_, fun r => ?_⟩
  · have same : respond status (k r >>= f) = .ret response := same
    rcases replies r with ⟨a, read, allowed⟩ | ⟨e, read⟩
    · rw [read] at same
      exact tells r a response allowed same bid' id'
    · rw [read] at same
      intro credentials told
      rw [Answer.credentials_raise same] at told
      cases told
  · show (respond status (k r >>= f)).Every asked.Tells
    rcases replies r with ⟨a, read, -⟩ | ⟨e, read⟩
    · rw [read]
      exact rest a
    · rw [read]
      exact every_raise status e

theorem tells_fetchBinding : (app now (.fetchBinding id bid)).Every
    (Request.fetchBinding id bid).Tells := by
  rw [app, fetchBinding]
  refine (BindingStore.reads_get bid id).every (fun r binding response found same bid' id' => ?_)
    fun binding => trivial
  obtain ⟨item, rfl, read⟩ := found
  obtain rfl := CallTree.ret.inj same
  intro credentials told
  simp only [Answer.credentials, Option.mem_def, Option.ite_none_right_eq_some,
    Option.ite_none_left_eq_some, Option.some.injEq] at told
  obtain ⟨⟨own, -⟩, shown, rfl⟩ := told
  exact ⟨own.symm, item, binding, rfl, read, rfl, shown⟩

theorem tells_send (payload : BindRequest) : (respond 201 (do
      TaskQueue.send .binding (.bind id bid payload)
      return .bind (placeholder id bid))).Every (Request.bind id bid payload).Tells := by
  refine ⟨fun r response same bid' id' credentials told => ?_, fun r => ?_⟩
  · rcases r with e | _
    · have same : respond 201 (.raise e) = .ret response := same
      rw [Answer.credentials_raise same] at told
      cases told
    · obtain rfl := CallTree.ret.inj same
      simp only [Answer.credentials, Option.mem_def, Option.ite_none_right_eq_some,
        Option.some.injEq, Prod.mk.injEq] at told
      obtain ⟨⟨⟨rfl, rfl⟩, -⟩, rfl⟩ := told
      rfl
  · rcases r with e | _
    · exact every_raise 201 e
    · trivial

theorem tells_create (payload : BindRequest) : (respond 201 (do
      let _ ← BindingStore.create now bid id payload.serviceId payload.planId payload.parameters
      TaskQueue.send .binding (.bind id bid payload)
      return .bind (placeholder id bid))).Every (Request.bind id bid payload).Tells := by
  refine ⟨fun r response same bid' id' credentials told => ?_, fun r => ?_⟩
  · rcases r with e | _
    · cases e
      all_goals
        obtain rfl := CallTree.ret.inj same
        cases told
    · cases same
  · rcases r with e | _
    · cases e <;> exact True.intro
    · exact tells_send payload

theorem tells_bind (payload : BindRequest) :
    (app now (.bind id bid payload)).Every (Request.bind id bid payload).Tells := by
  rw [app, bindInstance]
  refine every_single (InstanceStore.single_get id) (fun k ended r response same => ?_)
    fun inst => ?_
  · intro bid' id' credentials told
    dsimp only at same
    obtain ⟨inst, read⟩ | ⟨e, read⟩ := ended_cases (ended r)
    · -- a bind that goes on after its first call has another call to make
      rw [read, ret_bind] at same
      split at same
      · rw [Answer.credentials_raise same] at told
        cases told
      · cases same
    · rw [read] at same
      rw [Answer.credentials_raise same] at told
      cases told
  · split
    · exact every_raise 201 _
    · refine (BindingStore.reads_getOrNone bid id).every (fun r found response all same => ?_)
        fun found => ?_
      · intro bid' id' credentials told
        split at same
        next existing filtered =>
          obtain ⟨found, kept⟩ := Option.filter_eq_some_iff.mp filtered
          obtain ⟨service, plan⟩ := of_decide_eq_true kept
          obtain ⟨item, rfl, read⟩ := all existing found
          obtain rfl := CallTree.ret.inj same
          simp only [Answer.credentials, Option.mem_def, Option.ite_none_right_eq_some,
            Option.some.injEq] at told
          obtain ⟨⟨own, -⟩, rfl⟩ := told
          exact ⟨own.symm, item, existing, rfl, read, rfl, service, plan⟩
        next => cases same
      · split
        · trivial
        · exact tells_create payload

theorem every_tells (now : String) (asked : Request) : (app now asked).Every asked.Tells := by
  cases asked with
  | bind id bid payload => exact tells_bind payload
  | fetchBinding id bid => exact tells_fetchBinding
  | _ =>
      refine Every.mono (calls_app now _) fun c k _ => ?_
      cases c <;> exact fun _ _ _ _ _ _ told => by cases told

theorem makes_message (settings : Settings) (queue : QueueName) (draws : Draws) (m : Message) :
    (Worker.handle settings queue draws m).Calls Call.Makes := by
  obtain ⟨receipt, body⟩ := m
  cases body with
  | malformed text => exact calls_invoke trivial
  | scalar value => trivial
  | object payload =>
      by_cases op : payload.op = some .bind
      · have dispatched : (Worker.dispatch settings draws payload).Calls Call.Makes := by
          simp only [Worker.dispatch, op]
          refine calls_subscript fun id _ => calls_subscript fun bid _ => ?_
          exact calls_invoke ⟨draws, rfl⟩
        refine calls_bind (calls_attempt dispatched) fun result => ?_
        cases result with
        | error e => trivial
        | ok _ => exact calls_invoke trivial
      · refine (calls_handle draws).mono fun c c_in => ?_
        cases c_in with
        | updateBinding op' => exact absurd op' op
        | _ => trivial

theorem makes_app (now : String) (asked : Request) : (app now asked).Calls Call.Makes := by
  cases asked with
  | bind id bid payload =>
      refine calls_respond (calls_bindInstance trivial trivial ?_ trivial)
      exact ⟨.newItem now _ _ _, rfl⟩
  | _ =>
      refine (calls_app now _).mono fun c c_in => ?_
      cases c_in <;> trivial

inductive Thread.Tells : Thread → Prop where
  | request {asked rest} (calls : rest.Calls Call.Makes) (every : rest.Every asked.Tells) :
      Tells (.request asked rest)
  | handling {message rest} (calls : rest.Calls Call.Makes) : Tells (.handling message rest)

theorem Thread.Tells.makes {thread : Thread} (tells : thread.Tells) (next : thread.next = some c) :
    c.Makes := by
  cases tells with
  | request calls => exact calls.next next
  | handling calls => exact calls.next next

theorem kept_tells (settings : Settings) : Kept settings fun _ _ thread => thread.Tells where
  started records self asked now := .request (makes_app now asked) (every_tells now asked)
  taken records message delivery queue draws :=
    .handling (makes_message settings queue draws message)
  own records p tells := by
    obtain ⟨before, name, thread, outcome⟩ := p
    cases tells with
    | request calls every => exact .request (calls.advance _ _) (every.advance _ _)
    | handling calls => exact .handling (calls.advance _ _)
  other records r name thread tells other := tells

/-! ## One call -/

def Upheld (id bid : String) (known : Option (List BindCredentials)) (row : Option BindingItem) :
    Prop :=
  ∀ disclosed ∈ known, (∀ c ∈ disclosed, c = placeholder id bid) ∧
    ∃ item ∈ row, item.Live id bid ∧
      (item.state = some .bound → item.credentials.bind (·.password) = some "pending-rotation")

theorem Upheld.agree (upheld : Upheld id bid known row) : Agree id bid known row := by
  intro disclosed member
  obtain ⟨same, item, row, live, password⟩ := upheld disclosed member
  refine ⟨same, fun item' row' state => ?_⟩
  obtain rfl := Option.some.inj ((Option.mem_def.mp row).symm.trans row')
  exact password state

def Harmonious (id bid : String) (row : Option BindingItem) : RowChange BindingItem → Prop
  | .put item => item.Live id bid ∧ item.state = some .binding
  | .update f _ => ∃ draws, f = (bound draws id bid).apply ∧
      ((∃ item ∈ row, item.serviceId.isSome) → draws.token = "pending-rotation")
  | _ => True

theorem Performed.after_bindings (p : Performed) (pair : String × String) :
    p.after.bindings pair = (p.change pair).apply (p.before.bindings pair) := by
  unfold Performed.change
  by_cases effective : p.outcome = .fails false
  · rw [if_pos effective]
    cases next : p.thread.next with
    | none => rw [Performed.after, Thread.advance_none next]; rfl
    | some c => rw [Performed.after, Thread.advance_aws next, effective]; rfl
  · rw [if_neg effective]
    cases next : p.thread.next with
    | none => rw [Performed.after, Thread.advance_none next]; rfl
    | some c => rw [p.after_effective next effective, perform_bindings]; rfl

theorem Performed.harmonious (tells : p.thread.Tells) (kept : ¬p.Replaces) :
    Harmonious id bid (p.before.bindings (bid, id)) (p.change (bid, id)) := by
  unfold Performed.change
  split
  next => trivial
  next effective =>
    cases next : p.thread.next with
    | none => trivial
    | some c =>
        have makes := tells.makes next
        cases c with
        | putBinding bid' id' item =>
            simp only [Option.elim, Call.onBinding, RowChange.onKey]
            split
            next own =>
              obtain ⟨rfl, rfl⟩ := Prod.mk.inj own
              exact makes
            next => trivial
        | updateBinding bid' id' u =>
            simp only [Option.elim, Call.onBinding, RowChange.onKey]
            split
            next own =>
              obtain ⟨rfl, rfl⟩ := Prod.mk.inj own
              obtain ⟨draws, rfl⟩ := makes
              refine ⟨draws, rfl, fun found => ?_⟩
              obtain ⟨item, row, service⟩ := found
              by_contra other
              refine kept ⟨effective, _, by rw [next]; rfl, item, row, service, fun same => ?_⟩
              exact other (Option.some.inj same)
            next => trivial
        | deleteBinding bid' id' =>
            simp only [Option.elim, Call.onBinding, RowChange.onKey]
            split <;> trivial
        | _ => trivial

theorem Upheld.change {change : RowChange BindingItem} (upheld : Upheld id bid known row)
    (harmonious : Harmonious id bid row change) :
    Upheld id bid (disclosedAfter row known change) (change.apply row) := by
  cases change with
  | keep => exact upheld
  | put item =>
      obtain ⟨live, state⟩ := harmonious
      cases row with
      | none =>
          rintro _ ⟨⟩
          refine ⟨fun _ member => absurd member List.not_mem_nil, item, rfl, live, fun bound => ?_⟩
          cases state.symm.trans bound
      | some existing => exact upheld
  | update f default =>
      obtain ⟨draws, rfl, token⟩ := harmonious
      intro disclosed member
      obtain ⟨same, item, row, live, -⟩ := upheld disclosed member
      obtain ⟨binding, read⟩ := live.read
      have service : item.serviceId.isSome := by simp [(bindingFromItem_ok read).1]
      refine ⟨same, _, rfl, ?_, fun _ => ?_⟩
      · rw [Option.mem_def.mp row]
        exact live.apply draws
      · exact congrArg some (token ⟨item, row, service⟩)
  | delete => exact fun _ member => by cases member

theorem perform_getBinding_ok {outcome : Outcome} {self : ExecutionName} {item : BindingItem}
    (read : (outcome.perform self (.getBinding bid id) w).1 = .ok (some item)) :
    outcome = .ok ∧ w.bindings (bid, id) = some item := by
  cases outcome with
  | ok => exact ⟨rfl, Except.ok.inj read⟩
  | fails effect => cases effect <;> cases read

theorem Upheld.shown {rest : Handler Response} {r : Except Exn (Option BindingItem)}
    (upheld : Upheld id bid known (p.before.bindings (bid, id))) (opened : known ≠ none)
    (thread : p.thread = .request asked rest) (next : rest.next = some (.getBinding bid id))
    (replied : r = (p.outcome.perform p.name.self (.getBinding bid id) p.before).1)
    (shows : asked.Shows bid id r credentials) (quiet : ¬p.Repeats) :
    credentials = placeholder id bid := by
  obtain ⟨item, binding, rfl, read, rfl, selected⟩ := shows
  obtain ⟨ok, row⟩ := perform_getBinding_ok replied.symm
  obtain ⟨disclosed, rfl⟩ := Option.ne_none_iff_exists'.mp opened
  obtain ⟨-, item', row', live, password⟩ := upheld disclosed rfl
  obtain rfl := Option.some.inj (row.symm.trans row')
  refine live.shown read (fun state => ?_) password
  cases asked with
  | bind id' bid' payload =>
      obtain ⟨service, plan⟩ := selected
      obtain ⟨service', plan', -⟩ := bindingFromItem_ok read
      refine quiet ⟨ok, payload, by rw [thread]; rfl, (bid, id), ?_, item, row, ?_, ?_, state⟩
      · rw [thread]
        exact congrArg (Option.bind · Call.readsBinding) next
      · rw [service', service]
      · rw [plan', plan]
  | _ => exact live.completed read selected state

theorem Thread.answer_cases {thread : Thread} {answer : Answer}
    (ended : thread.ended.join = some answer) : ∃ asked rest, thread = .request asked rest ∧
      (rest = .ret answer.response ∧ answer.request = asked ∨ ¬answer.response.accepted) := by
  cases thread with
  | handling message rest => cases rest <;> cases ended
  | request asked rest =>
      refine ⟨asked, rest, rfl, ?_⟩
      cases rest with
      | ret response =>
          obtain rfl := Option.some.inj ended
          exact .inl ⟨rfl, rfl⟩
      | raise e =>
          obtain rfl := Option.some.inj ended
          exact .inr (by simp [Response.accepted])
      | call c k => cases ended

theorem Performed.told {answer : Answer} (tells : p.thread.Tells) (running : p.thread.ended = none)
    (quiet : ¬p.Repeats) (upheld : Upheld id bid known (p.before.bindings (bid, id)))
    (opened : disclosedAfter (p.before.bindings (bid, id)) known (p.change (bid, id)) ≠ none)
    (ended : p.next.ended.join = some answer) :
    ∀ credentials ∈ answer.credentials bid id, credentials = placeholder id bid := by
  intro credentials told
  obtain ⟨asked, rest, next, last⟩ := Thread.answer_cases ended
  rcases last with ⟨rfl, rfl⟩ | rejected
  · obtain ⟨before, name, thread, outcome⟩ := p
    cases tells with
    | handling calls => cases next
    | @request asked rest calls every =>
        cases rest with
        | ret response => cases running
        | raise e => cases running
        | call c k =>
            obtain ⟨rfl, same⟩ := Thread.request.inj next
            cases c with
            | getBinding bid' id' =>
                obtain ⟨own, shows⟩ := every.1 _ _ same bid id credentials told
                obtain ⟨rfl, rfl⟩ := Prod.mk.inj own
                refine upheld.shown ?_ rfl rfl rfl shows quiet
                simpa [Performed.change, Thread.next, CallTree.next, Call.onBinding,
                  disclosedAfter] using opened
            | _ => exact every.1 _ _ same bid id credentials told
  · rw [show answer.credentials bid id = none from Answer.credentials_rejected rejected] at told
    cases told

/-! ## Runs -/

theorem Upheld.answers {name : ThreadName} {thread : Thread} {records : List Entry}
    (upheld : Upheld id bid (disclosed bid id records) row)
    (told : disclosed bid id records ≠ none → ∀ answer, thread.ended.join = some answer →
      ∀ credentials ∈ answer.credentials bid id, credentials = placeholder id bid) :
    Upheld id bid (disclosed bid id (thread.answers name ++ records)) row := by
  obtain none | ⟨self, answer, -, ended, some⟩ := thread.answers_cases name
  · rwa [none]
  · rw [some]
    show Upheld id bid
      ((disclosed bid id records).map (· ++ (answer.credentials bid id).toList)) row
    intro after member
    obtain ⟨before, known, rfl⟩ := Option.mem_map.mp member
    obtain ⟨same, present⟩ := upheld before known
    refine ⟨fun c shown => ?_, present⟩
    rcases List.mem_append.mp shown with shown | shown
    · exact same c shown
    · exact told (by simp [Option.mem_def.mp known]) answer ended c (Option.mem_toList.mp shown)

theorem System.Goes.running {s s' : System} {name : ThreadName} {thread : Thread}
    (goes : s.Goes name thread s')
    (running : ∀ name thread, s.threads.lookup name = some thread → thread.ended = none) :
    ∀ name thread, s'.threads.lookup name = some thread → thread.ended = none := by
  intro name' thread' looked
  by_cases same : name' = name
  · subst same
    rw [goes.own] at looked
    split at looked
    next running => exact Option.some.inj looked ▸ running
    next => cases looked
  · rw [goes.others name' same] at looked
    exact running name' thread' looked

theorem Recorded.Moved.running {s s' : Recorded} (moved : s.Moved settings s')
    (running : ∀ name thread, s.system.threads.lookup name = some thread → thread.ended = none) :
    ∀ name thread, s'.system.threads.lookup name = some thread → thread.ended = none := by
  cases moved with
  | idle => exact running
  | started free goes => exact goes.running running
  | taken goes => exact goes.running running
  | performed before looked goes => exact goes.running running

structure Recorded.Upholds (s : Recorded) : Prop where
  tells : s.Holds (fun _ _ thread => thread.Tells) fun _ _ => True
  running : ∀ name thread, s.system.threads.lookup name = some thread → thread.ended = none
  upheld : ∀ bid id,
    Upheld id bid (disclosed bid id s.records) (s.system.aws.bindings (bid, id))

variable {s : Recorded}

theorem Recorded.Upholds.call {name : ThreadName} {outcome : Outcome} (upholds : s.Upholds)
    (quiet : ¬s.system.Contradicts (.call name outcome)) (bid id : String) :
    Upheld id bid (disclosed bid id (s.step settings (.call name outcome)).records)
      ((s.step settings (.call name outcome)).system.aws.bindings (bid, id)) := by
  have upheld := upholds.upheld bid id
  cases looked : s.system.threads.lookup name with
  | none =>
      simpa only [Recorded.step, System.step, System.records, looked, List.nil_append] using upheld
  | some thread =>
      let p : Performed := ⟨s.system.aws, name, thread, outcome⟩
      have tells : p.thread.Tells := upholds.tells.threads name thread looked
      have records : (s.step settings (.call name outcome)).records =
          p.next.answers name ++ .performed p :: s.records := by
        simp [Recorded.step, System.records, looked, p]
      have aws : (s.system.step settings (.call name outcome)).aws = p.after :=
        step_call_aws outcome looked
      have repeats : ¬p.Repeats := fun repeats => quiet ⟨thread, looked, .inl repeats⟩
      have replaces : ¬p.Replaces := fun replaces => quiet ⟨thread, looked, .inr replaces⟩
      rw [records, Recorded.step, aws, p.after_bindings]
      refine Upheld.answers (upheld.change (p.harmonious tells replaces))
        fun opened answer ended => ?_
      exact p.told tells (upholds.running name thread looked) repeats upheld opened ended

theorem Recorded.Upholds.step (upholds : s.Upholds) {i : Action}
    (quiet : ¬s.system.Contradicts i) : (s.step settings i).Upholds := by
  have moved := recorded_moved settings s i
  refine ⟨upholds.tells.moved (kept_tells settings) (fun _ _ _ => trivial) (fun _ _ _ => trivial)
    (fun _ _ _ _ _ _ => trivial) moved, moved.running upholds.running, fun bid id => ?_⟩
  have upheld := upholds.upheld bid id
  cases i with
  | start asked serial now =>
      rw [Recorded.step, step_bindings s.system (by simp)]
      simp only [System.records]
      split
      next => exact upheld
      next =>
        rw [List.append_assoc]
        refine Upheld.answers upheld fun _ answer ended credentials told => ?_
        obtain ⟨asked', rest, same, last⟩ := Thread.answer_cases ended
        obtain ⟨rfl, rfl⟩ := Thread.request.inj same
        have rejected : ¬answer.response.accepted := by
          rcases last with ⟨ret, -⟩ | rejected
          · exact app_ret ret
          · exact rejected
        rw [show answer.credentials bid id = none from Answer.credentials_rejected rejected] at told
        cases told
  | receive queue receipt delivery draws =>
      rw [Recorded.step, step_bindings s.system (by simp)]
      exact upheld
  | again queue receipt delivery draws =>
      rw [Recorded.step, step_bindings s.system (by simp)]
      exact upheld
  | call name outcome => exact upholds.call quiet bid id

/-- All disclosed credentials of every binding agree, in every state of a run of concurrent requests
and handlings no step of which contradicts what was disclosed. -/
theorem disclosed_credentials_agree (settings : Settings) (w : Aws) (actions : List Action)
    (along : Machine.Along (Recorded.step settings) (fun s i => ¬s.system.Contradicts i)
      ⟨⟨w, ∅, [], []⟩, []⟩ actions) (bid id : String) :
    CredentialsAgree (disclosed bid id (Recorded.after settings w actions).records)
      ((Recorded.after settings w actions).system.aws.bindings (bid, id)) := by
  have upholds : (Recorded.after settings w actions).Upholds := by
    refine Machine.exec_invariant (I := Recorded.Upholds) _
      (fun s i upholds quiet => upholds.step quiet) ?_ along
    exact ⟨⟨fun _ _ looked => (by simp at looked), .nil⟩, fun _ _ looked => (by simp at looked),
      fun bid id _ member => by cases member⟩
  exact (upholds.upheld bid id).agree.credentialsAgree

def calls (name : ThreadName) (n : ℕ) : List Action :=
  List.replicate n (.call name .ok)

def bindingCreated : List Action :=
  .start (.provision "a" ⟨"s", "p", ∅, ∅⟩ true) 0 "now" :: calls (.request ⟨"a", 0⟩) 3 ++
  .start (.bind "a" "b" ⟨"s", "p", ∅⟩) 1 "now" :: calls (.request ⟨"a", 1⟩) 4

def bindingFetched : List Action :=
  .start (.fetchBinding "a" "b") 2 "now" :: calls (.request ⟨"a", 2⟩) 1

def bindingHandled : List Action :=
  .receive .binding ⟨"a", 1⟩ 0 ⟨"now", "token"⟩ :: calls (.handling ⟨"a", 1⟩ 0) 2

theorem created_binding_agrees :
    let s := Recorded.after {} .empty (bindingCreated ++ bindingFetched)
    CredentialsAgree (disclosed "b" "a" s.records) (s.system.aws.bindings ("b", "a")) :=
  disclosed_credentials_agree {} .empty (bindingCreated ++ bindingFetched) (by decide) "b" "a"

theorem disclosed_credentials_not_always_agree :
    ¬∀ settings actions, (∀ i ∈ actions, Action.Faultless i) → ∀ bid id,
      CredentialsAgree (disclosed bid id (Recorded.after settings .empty actions).records)
        ((Recorded.after settings .empty actions).system.aws.bindings (bid, id)) := by
  intro always
  let run := bindingCreated ++ bindingHandled ++ bindingFetched
  let drawn : BindCredentials := { placeholder "a" "b" with password := "token" }
  have known : disclosed "b" "a" (Recorded.after {} .empty run).records =
      some [placeholder "a" "b", drawn] := by decide
  have agree := always {} run (by decide) "b" "a"
  have same : placeholder "a" "b" = drawn :=
    agree.same _ known _ List.mem_cons_self _ (List.mem_cons_of_mem _ (List.mem_singleton_self _))
  exact absurd same (by decide)

end Regnant.Osb
