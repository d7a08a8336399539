import Regnant.Proof.BindingSteps

namespace Regnant.Osb
open Function (update_self update_of_ne)

def Event.disclosed (bid id : String) (known : Option (List BindCredentials)) :
    Event → Option (List BindCredentials)
  | .answered before (.bind id' bid' _) response =>
      if (bid', id') = (bid, id) ∧ response.accepted then
        match response.body with
        | .bind credentials =>
            if before.bindings (bid, id) = none then some [credentials]
            else known.map (· ++ [credentials])
        | _ => known
      else known
  | .answered _ (.fetchBinding id' bid') response =>
      if (bid', id') = (bid, id) ∧ response.accepted then
        match response.body with
        | .fetchBinding (some credentials) _ => known.map (· ++ [credentials])
        | _ => known
      else known
  | .answered _ (.unbind id' bid' _ _) response =>
      if (bid', id') = (bid, id) ∧ response.accepted then none else known
  | _ => known

def Broker.disclosed (s : Broker) (bid id : String) : Option (List BindCredentials) :=
  s.history.foldl (Event.disclosed bid id) none

/-- All credentials disclosed of a binding are the same, with a password that is not empty and is
the stored one when the binding is bound. -/
structure CredentialsAgree (known : Option (List BindCredentials)) (row : Option BindingItem) :
    Prop where
  same : ∀ disclosed ∈ known, ∀ c ∈ disclosed, ∀ c' ∈ disclosed, c = c'
  password : ∀ disclosed ∈ known, ∀ c ∈ disclosed, c.password ≠ ""
  stored : ∀ disclosed ∈ known, ∀ c ∈ disclosed, ∀ item ∈ row,
    item.state = some .bound → item.credentials.bind (·.password) = some c.password

abbrev Broker.CredentialsAgree (s : Broker) (bid id : String) : Prop :=
  Osb.CredentialsAgree (s.disclosed bid id) (s.aws.bindings (bid, id))

/-- The step repeats the bind of a binding that is not completed yet, or completes the binding with
another password than the placeholder. -/
def Broker.Contradicts (bid id : String) (s : Broker) : Step → Prop
  | .request request _ _ => ∃ payload item, request = .bind id bid payload ∧ s.aws.Bindable id ∧
      s.aws.bindings (bid, id) = some item ∧ item.serviceId = some payload.serviceId ∧
      item.planId = some payload.planId ∧ item.state = some .binding
  | .work .binding draws => draws.token ≠ "pending-rotation" ∧ ∃ receipt payload rest item,
      s.aws.bindingTasks = ⟨receipt, .object (.bind id bid payload)⟩ :: rest ∧
        s.aws.bindings (bid, id) = some item ∧ item.serviceId.isSome
  | .work .provision _ => False

def placeholder (id bid : String) : BindCredentials where
  uri := s!"https://{id}.internal.regnant.local"
  username := s!"binding-{bid}"
  password := "pending-rotation"

structure BindingItem.Live (item : BindingItem) (id bid : String) : Prop where
  read : ∃ binding, bindingFromItem bid id item = .ok binding
  progress : item.state = some .binding ∧ item.credentials = some {} ∨
    item.state = some .bound ∧ ∃ draws, item.credentials = some (bound draws id bid).credentials

variable {settings : Settings} {self : ExecutionName} {now id bid : String} {w w' : Aws}
  {item : BindingItem} {binding : Binding} {s : Broker} {i : Step} {draws : Draws}
  {known : Option (List BindCredentials)} {row : Option BindingItem}

theorem bindingFromItem_ok (read : bindingFromItem bid id item = .ok binding) :
    item.serviceId = some binding.serviceId ∧ item.planId = some binding.planId ∧
      item.state = some binding.state ∧ binding.credentials = item.credentials.getD {} := by
  obtain ⟨service, plan, state, credentials, parameters, created, updated⟩ := item
  cases service <;> cases plan <;> cases state <;> cases created <;> cases updated <;>
    simp only [bindingFromItem, require, bind, Except.bind, pure, Except.pure, Except.ok.injEq,
      reduceCtorEq] at read
  subst read
  exact ⟨rfl, rfl, rfl, rfl⟩

theorem bindingFromItem_apply (read : bindingFromItem bid id item = .ok binding)
    (u : BindingUpdate) : ∃ binding, bindingFromItem bid id (u.apply item) = .ok binding := by
  obtain ⟨service, plan, state, credentials, parameters, created, updated⟩ := item
  cases service <;> cases plan <;> cases state <;> cases created <;> cases updated <;>
    simp only [bindingFromItem, require, bind, Except.bind, pure, Except.pure, Except.ok.injEq,
      reduceCtorEq] at read
  exact ⟨_, rfl⟩

theorem BindingItem.Live.newItem (now service plan : String) (parameters : Dict) :
    (BindingStore.newItem now service plan parameters).Live id bid :=
  ⟨⟨_, rfl⟩, .inl ⟨rfl, rfl⟩⟩

theorem BindingItem.Live.apply (live : item.Live id bid) (draws : Draws) :
    ((bound draws id bid).apply item).Live id bid := by
  obtain ⟨binding, read⟩ := live.read
  exact ⟨bindingFromItem_apply read _, .inr ⟨rfl, draws, rfl⟩⟩

theorem ofStored_bound (draws : Draws) :
    BindCredentials.ofStored (bound draws id bid).credentials =
      { placeholder id bid with password := draws.token } := rfl

/-! ## What a step discloses -/

def Life (id bid : String) (known : Option (List BindCredentials)) (row : Option BindingItem) :
    Prop :=
  match known with
  | none => ∀ item ∈ row, item.serviceId = none
  | some disclosed => placeholder id bid ∈ disclosed ∧ ∃ item ∈ row, item.Live id bid

inductive Discloses (s : Broker) (bid id : String) :
    Step → Option (List BindCredentials) → Option BindingItem → Prop where
  | opened {payload serial time} (absent : s.aws.bindings (bid, id) = none) (now : String) :
      Discloses s bid id (.request (.bind id bid payload) serial time)
        (some [placeholder id bid])
        (some (BindingStore.newItem now payload.serviceId payload.planId payload.parameters))
  | repeated {payload serial time item binding} (bindable : s.aws.Bindable id)
      (present : s.aws.bindings (bid, id) = some item)
      (read : bindingFromItem bid id item = .ok binding)
      (service : binding.serviceId = payload.serviceId) (plan : binding.planId = payload.planId) :
      Discloses s bid id (.request (.bind id bid payload) serial time)
        ((s.disclosed bid id).map (· ++ [.ofStored binding.credentials])) (some item)
  | fetched {serial time item binding} (present : s.aws.bindings (bid, id) = some item)
      (read : bindingFromItem bid id item = .ok binding) (shown : binding.credentials ≠ {}) :
      Discloses s bid id (.request (.fetchBinding id bid) serial time)
        ((s.disclosed bid id).map (· ++ [.ofStored binding.credentials])) (some item)
  | closed {service plan serial time} :
      Discloses s bid id (.request (.unbind id bid service plan) serial time) none none
  | completed {draws receipt payload rest}
      (head : s.aws.bindingTasks = ⟨receipt, .object (.bind id bid payload)⟩ :: rest) :
      Discloses s bid id (.work .binding draws) (s.disclosed bid id)
        (some ((bound draws id bid).apply ((s.aws.bindings (bid, id)).getD {})))
  | same {i : Step} (quiet : ¬s.Contradicts bid id i) :
      Discloses s bid id i (s.disclosed bid id) (s.aws.bindings (bid, id))

theorem disclosed_concat (e : Event) :
    Broker.disclosed ⟨w', s.history ++ [e]⟩ bid id = e.disclosed bid id (s.disclosed bid id) := by
  simp [Broker.disclosed]

theorem Life.readable (life : Life id bid known row) (present : row = some item)
    (service : item.serviceId.isSome) : item.Live id bid := by
  cases known with
  | none => simp [life item present] at service
  | some disclosed =>
      obtain ⟨-, item', row', live⟩ := life
      obtain rfl := Option.some.inj (present.symm.trans row')
      exact live

def Request.binding? : Request → Option (String × String)
  | .bind id bid _ => some (bid, id)
  | .unbind id bid _ _ => some (bid, id)
  | .fetchBinding id bid => some (bid, id)
  | _ => none

theorem discloses_other {request : Request} {serial : Nat} {response : Response}
    (answered : AnsweredBinding self now s.aws request response w')
    (other : request.binding? ≠ some (bid, id)) :
    Discloses s bid id (.request request serial now)
      (Broker.disclosed ⟨w', s.history ++ [.answered s.aws request response]⟩ bid id)
      (w'.bindings (bid, id)) := by
  have row : w'.bindings (bid, id) = s.aws.bindings (bid, id) := by
    cases answered with
    | created => exact update_of_ne (fun same => other (congrArg some same.symm)) _ _
    | found => rfl
    | unbound => exact update_of_ne (fun same => other (congrArg some same.symm)) _ _
    | rejected => rfl
    | other quiet same => rw [same.bindings]
  have known : Broker.disclosed ⟨w', s.history ++ [.answered s.aws request response]⟩ bid id =
      s.disclosed bid id := by
    rw [disclosed_concat]
    cases request with
    | bind => exact if_neg fun both => other (congrArg some both.1)
    | unbind => exact if_neg fun both => other (congrArg some both.1)
    | fetchBinding => exact if_neg fun both => other (congrArg some both.1)
    | _ => rfl
  rw [row, known]
  refine .same ?_
  rintro ⟨payload, item, rfl, -⟩
  exact other rfl

theorem discloses_rejected {request : Request} {serial code : Nat} {body : Body}
    {answer : Response × Aws} (same : answer = (⟨code, body⟩, s.aws))
    (rejected : ¬(200 ≤ code ∧ code < 300))
    (quiet : ¬s.Contradicts bid id (.request request serial now)) :
    Discloses s bid id (.request request serial now)
      (Broker.disclosed ⟨answer.2, s.history ++ [.answered s.aws request answer.1]⟩ bid id)
      (answer.2.bindings (bid, id)) := by
  subst same
  have known :
      Broker.disclosed ⟨s.aws, s.history ++ [.answered s.aws request ⟨code, body⟩]⟩ bid id =
        s.disclosed bid id := by
    rw [disclosed_concat]
    cases request with
    | bind => simp [Event.disclosed, Response.accepted, rejected]
    | unbind => simp [Event.disclosed, Response.accepted, rejected]
    | fetchBinding => simp [Event.disclosed, Response.accepted, rejected]
    | _ => rfl
  rw [known]
  exact .same quiet

/-! ## The three routes -/

theorem answer_fetchBinding_present (present : w.bindings (bid, id) = some item) :
    w.answer self now (.fetchBinding id bid) =
      (match bindingFromItem bid id item with
        | .ok binding => ⟨200, .fetchBinding
            (if binding.credentials = {} then none else some (.ofStored binding.credentials))
            binding.parameters⟩
        | .error _ => ⟨500, .serverError⟩, w) := by
  cases read : bindingFromItem bid id item with
  | ok binding =>
      simp [Aws.answer, app, respond, fetchBinding, run_getBinding_some present, read]
  | error e =>
      obtain ⟨key, rfl⟩ := bindingFromItem_error read
      simp [Aws.answer, app, respond, fetchBinding, run_getBinding_some present, read]

section Routes
variable {serial : Nat} (settings : Settings)

theorem discloses_bind (life : Life id bid (s.disclosed bid id) (s.aws.bindings (bid, id)))
    (payload : BindRequest) :
    Discloses s bid id (.request (.bind id bid payload) serial now)
      ((s.step settings (.request (.bind id bid payload) serial now)).disclosed bid id)
      ((s.step settings (.request (.bind id bid payload) serial now)).aws.bindings (bid, id)) := by
  simp only [Broker.step]
  cases row : s.aws.instances id with
  | none =>
      refine discloses_rejected (answer_bind_absent row) (by decide) ?_
      rintro ⟨_, _, ⟨⟩, ⟨item, present, -⟩, -⟩
      simp [row] at present
  | some item =>
      cases read : instanceFromItem id item with
      | error e =>
          refine discloses_rejected (answer_bind_unreadable row read) (by decide) ?_
          rintro ⟨_, _, ⟨⟩, ⟨item', present, inst, read', -⟩, -⟩
          obtain rfl := Option.some.inj (row.symm.trans present)
          cases read.symm.trans read'
      | ok inst =>
          by_cases bindable : inst.state.bindable
          · cases bound : s.aws.bindings (bid, id) with
            | none =>
                rw [answer_bind_created row read bindable bound, disclosed_concat]
                simpa [Event.disclosed, Response.accepted, bound, Aws.bindSent, Aws.withBinding,
                  placeholder] using .opened bound now
            | some existing =>
                rw [answer_bind_existing row read bindable bound]
                cases read' : bindingFromItem bid id existing with
                | error e =>
                    refine discloses_rejected rfl (by decide) ?_
                    rintro ⟨_, _, ⟨⟩, -, present, service, -⟩
                    obtain ⟨binding, read⟩ :=
                      (life.readable present (by simp [service])).read
                    obtain rfl := Option.some.inj (bound.symm.trans present)
                    cases read'.symm.trans read
                | ok binding =>
                    dsimp only
                    split
                    next same =>
                      have shown :
                          Discloses s bid id (.request (.bind id bid payload) serial now) _ _ :=
                        .repeated ⟨item, row, inst, read, bindable⟩ bound read' same.1 same.2
                      rw [disclosed_concat]
                      simpa [Event.disclosed, Response.accepted, bound] using shown
                    next other =>
                      refine discloses_rejected rfl (by decide) ?_
                      rintro ⟨_, _, ⟨⟩, -, present, service, plan, -⟩
                      obtain rfl := Option.some.inj (bound.symm.trans present)
                      obtain ⟨service', plan', -⟩ := bindingFromItem_ok read'
                      refine other ⟨?_, ?_⟩
                      · exact Option.some.inj (service'.symm.trans service)
                      · exact Option.some.inj (plan'.symm.trans plan)
          · refine discloses_rejected (answer_bind_unbindable row read bindable) (by decide) ?_
            rintro ⟨_, _, ⟨⟩, ⟨item', present, inst', read', bindable'⟩, -⟩
            obtain rfl := Option.some.inj (row.symm.trans present)
            obtain rfl := Except.ok.inj (read.symm.trans read')
            exact bindable bindable'

theorem discloses_fetchBinding :
    Discloses s bid id (.request (.fetchBinding id bid) serial now)
      ((s.step settings (.request (.fetchBinding id bid) serial now)).disclosed bid id)
      ((s.step settings (.request (.fetchBinding id bid) serial now)).aws.bindings (bid, id)) := by
  have quiet : ¬s.Contradicts bid id (.request (.fetchBinding id bid) serial now) := by
    rintro ⟨_, _, ⟨⟩, -⟩
  simp only [Broker.step]
  cases bound : s.aws.bindings (bid, id) with
  | none =>
      have absent : s.aws.answer ⟨id, serial⟩ now (.fetchBinding id bid) =
          (⟨404, .error "BindingNotFound" s!"binding {bid} not found"⟩, s.aws) := by
        simp [Aws.answer, app, respond, fetchBinding, run_getBinding_none bound,
          OsbErrorKind.statusCode, OsbErrorKind.errorCode]
      exact discloses_rejected absent (by decide) quiet
  | some existing =>
      rw [answer_fetchBinding_present bound]
      cases read : bindingFromItem bid id existing with
      | error e => exact discloses_rejected rfl (by decide) quiet
      | ok binding =>
          rw [disclosed_concat]
          by_cases empty : binding.credentials = {}
          · simpa [Event.disclosed, Response.accepted, empty] using .same quiet
          · have shown : Discloses s bid id (.request (.fetchBinding id bid) serial now) _ _ :=
              .fetched bound read empty
            simpa [Event.disclosed, Response.accepted, empty, bound] using shown

theorem discloses_unbind (service plan : String) :
    Discloses s bid id (.request (.unbind id bid service plan) serial now)
      ((s.step settings (.request (.unbind id bid service plan) serial now)).disclosed bid id)
      ((s.step settings (.request (.unbind id bid service plan) serial now)).aws.bindings
        (bid, id)) := by
  have quiet : ¬s.Contradicts bid id (.request (.unbind id bid service plan) serial now) := by
    rintro ⟨_, _, ⟨⟩, -⟩
  simp only [Broker.step]
  cases bound : s.aws.bindings (bid, id) with
  | none => exact discloses_rejected (answer_unbind_absent bound) (by decide) quiet
  | some existing =>
      rw [answer_unbind_existing bound]
      cases bindingFromItem bid id existing with
      | error e => exact discloses_rejected rfl (by decide) quiet
      | ok binding =>
          dsimp only
          split
          · rw [disclosed_concat]
            simpa [Event.disclosed, Response.accepted, Aws.withoutBinding] using .closed
          · exact discloses_rejected rfl (by decide) quiet

theorem discloses_request (life : Life id bid (s.disclosed bid id) (s.aws.bindings (bid, id)))
    (request : Request) :
    Discloses s bid id (.request request serial now)
      ((s.step settings (.request request serial now)).disclosed bid id)
      ((s.step settings (.request request serial now)).aws.bindings (bid, id)) := by
  by_cases own : request.binding? = some (bid, id)
  · cases request with
    | bind id' bid' payload =>
        obtain ⟨rfl, rfl⟩ := Prod.mk.inj (Option.some.inj own)
        exact discloses_bind settings life payload
    | unbind id' bid' service plan =>
        obtain ⟨rfl, rfl⟩ := Prod.mk.inj (Option.some.inj own)
        exact discloses_unbind settings service plan
    | fetchBinding id' bid' =>
        obtain ⟨rfl, rfl⟩ := Prod.mk.inj (Option.some.inj own)
        exact discloses_fetchBinding settings
    | _ => cases own
  · exact discloses_other (answeredBinding _ now s.aws request) own

theorem discloses_work {queue : QueueName} {s' : Broker}
    (transition : BindingTransition settings s (.work queue draws) s') :
    Discloses s bid id (.work queue draws) (s'.disclosed bid id) (s'.aws.bindings (bid, id)) := by
  cases transition with
  | @completed _ receipt id' bid' payload rest head =>
      rw [disclosed_concat]
      by_cases own : (bid', id') = (bid, id)
      · obtain ⟨rfl, rfl⟩ := Prod.mk.inj own
        simpa [Aws.acknowledged, Aws.completed] using .completed head
      · have row : ∀ u, (({ s.aws with bindingTasks := rest } : Aws).completed id' bid' u).bindings
            (bid, id) = s.aws.bindings (bid, id) := fun u => update_of_ne (Ne.symm own) _ _
        simp only [Aws.acknowledged, row]
        refine .same ?_
        rintro ⟨-, receipt', payload', rest', item, head', -⟩
        have same := (List.cons.inj (head.symm.trans head')).1
        have about := congrArg
          (fun m => (m.payload.bind (·.bindingId), m.payload.bind (·.instanceId))) same
        exact own (by simpa [Message.payload, Payload.bind] using about)
  | @unbindHandled _ receipt id' bid' rest head =>
      rw [disclosed_concat]
      refine .same ?_
      rintro ⟨-, receipt', payload', rest', item, head', -⟩
      cases head.symm.trans head'
  | instanceHandled same =>
      rw [disclosed_concat, same.bindings]
      exact .same not_false
  | idle empty =>
      refine .same fun contradicts => ?_
      cases queue with
      | provision => exact contradicts
      | binding =>
          obtain ⟨-, receipt, payload, rest, item, head, -⟩ := contradicts
          simp [Aws.tasks, head] at empty

theorem discloses_step (sorted : s.aws.Sorted)
    (life : Life id bid (s.disclosed bid id) (s.aws.bindings (bid, id))) (i : Step) :
    Discloses s bid id i ((s.step settings i).disclosed bid id)
      ((s.step settings i).aws.bindings (bid, id)) := by
  cases i with
  | request request serial now => exact discloses_request settings life request
  | work queue draws => exact discloses_work settings (step_bindingTransition sorted _)

end Routes

/-! ## What every step keeps -/

theorem Life.shown (life : Life id bid known row) (c : BindCredentials) :
    Life id bid (known.map (· ++ [c])) row := by
  cases known with
  | none => exact life
  | some disclosed => exact ⟨List.mem_append_left _ life.1, life.2⟩

theorem Life.step {known' : Option (List BindCredentials)} {row' : Option BindingItem}
    (life : Life id bid (s.disclosed bid id) (s.aws.bindings (bid, id)))
    (step : Discloses s bid id i known' row') : Life id bid known' row' := by
  cases step with
  | opened absent now => exact ⟨List.mem_singleton_self _, _, rfl, .newItem now _ _ _⟩
  | repeated bindable present read =>
      rw [present] at life
      exact life.shown _
  | fetched present read =>
      rw [present] at life
      exact life.shown _
  | closed => exact fun _ member => by cases member
  | @completed draws receipt payload rest head =>
      cases known : s.disclosed bid id with
      | none =>
          rw [known] at life
          rintro _ ⟨⟩
          cases row : s.aws.bindings (bid, id) with
          | none => rfl
          | some item => exact life item row
      | some disclosed =>
          rw [known] at life
          obtain ⟨first, item, row, live⟩ := life
          refine ⟨first, _, rfl, ?_⟩
          rw [Option.mem_def.mp row]
          exact live.apply draws
  | same => exact life

theorem BindingItem.Live.shown (live : item.Live id bid)
    (read : bindingFromItem bid id item = .ok binding) (completed : item.state ≠ some .binding)
    (password : item.state = some .bound →
      item.credentials.bind (·.password) = some "pending-rotation") :
    BindCredentials.ofStored binding.credentials = placeholder id bid := by
  rcases live.progress with ⟨state, -⟩ | ⟨state, draws, credentials⟩
  · exact absurd state completed
  · have password := password state
    rw [credentials] at password
    have token : draws.token = "pending-rotation" := Option.some.inj password
    rw [(bindingFromItem_ok read).2.2.2, credentials, Option.getD_some, ofStored_bound, token]
    rfl

theorem BindingItem.Live.completed (live : item.Live id bid)
    (read : bindingFromItem bid id item = .ok binding) (shown : binding.credentials ≠ {}) :
    item.state ≠ some .binding := by
  intro state
  rcases live.progress with ⟨-, credentials⟩ | ⟨state', -⟩
  · rw [(bindingFromItem_ok read).2.2.2, credentials] at shown
    exact shown rfl
  · cases state.symm.trans state'

def Agree (id bid : String) (known : Option (List BindCredentials)) (row : Option BindingItem) :
    Prop :=
  ∀ disclosed ∈ known, (∀ c ∈ disclosed, c = placeholder id bid) ∧ ∀ item ∈ row,
    item.state = some .bound → item.credentials.bind (·.password) = some "pending-rotation"

theorem Agree.credentialsAgree (agree : Agree id bid known row) : CredentialsAgree known row := by
  refine ⟨fun disclosed known c member c' member' => ?_, fun disclosed known c member => ?_,
    fun disclosed known c member => ?_⟩
  · rw [(agree disclosed known).1 c member, (agree disclosed known).1 c' member']
  · rw [(agree disclosed known).1 c member]
    simp [placeholder]
  · rw [(agree disclosed known).1 c member]
    exact (agree disclosed known).2

theorem credentialsAgree_iff (life : Life id bid known row) :
    CredentialsAgree known row ↔ Agree id bid known row := by
  constructor
  · intro agree disclosed known
    rw [Option.mem_def.mp known] at life
    refine ⟨fun c member => agree.same disclosed known c member _ life.1, ?_⟩
    exact agree.stored disclosed known _ life.1
  · exact Agree.credentialsAgree

theorem Agree.append {disclosed : List BindCredentials} (agree : Agree id bid (some disclosed) row)
    (c : BindCredentials) :
    Agree id bid (some (disclosed ++ [c])) row ↔ c = placeholder id bid := by
  constructor
  · intro agree'
    exact (agree' _ rfl).1 c (by simp)
  · rintro rfl _ ⟨⟩
    refine ⟨fun c member => ?_, (agree disclosed rfl).2⟩
    rcases List.mem_append.mp member with member | member
    · exact (agree disclosed rfl).1 c member
    · exact List.mem_singleton.mp member

theorem shown_uncompleted (live : item.Live id bid)
    (read : bindingFromItem bid id item = .ok binding) (state : item.state = some .binding) :
    BindCredentials.ofStored binding.credentials ≠ placeholder id bid := by
  rcases live.progress with ⟨-, credentials⟩ | ⟨state', -⟩
  · rw [(bindingFromItem_ok read).2.2.2, credentials]
    intro same
    have password := congrArg BindCredentials.password same
    simp [BindCredentials.ofStored, placeholder] at password
  · cases state.symm.trans state'

theorem contradicts_repeated {payload : BindRequest} {serial : Nat} (bindable : s.aws.Bindable id)
    (present : s.aws.bindings (bid, id) = some item)
    (read : bindingFromItem bid id item = .ok binding)
    (service : binding.serviceId = payload.serviceId) (plan : binding.planId = payload.planId) :
    s.Contradicts bid id (.request (.bind id bid payload) serial now) ↔
      item.state = some .binding := by
  obtain ⟨service', plan', -⟩ := bindingFromItem_ok read
  constructor
  · rintro ⟨_, item', ⟨⟩, -, present', -, -, state⟩
    rwa [← Option.some.inj (present.symm.trans present')] at state
  · intro state
    refine ⟨payload, item, rfl, bindable, present, ?_, ?_, state⟩
    · rw [service', service]
    · rw [plan', plan]

theorem contradicts_completed {receipt : ExecutionName} {payload : BindRequest}
    {rest : List Message}
    (head : s.aws.bindingTasks = ⟨receipt, .object (.bind id bid payload)⟩ :: rest) :
    s.Contradicts bid id (.work .binding draws) ↔ draws.token ≠ "pending-rotation" ∧
      ∃ item ∈ s.aws.bindings (bid, id), item.serviceId.isSome := by
  constructor
  · rintro ⟨token, _, _, _, item, -, present, service⟩
    exact ⟨token, item, present, service⟩
  · rintro ⟨token, item, present, service⟩
    exact ⟨token, receipt, payload, rest, item, head, present, service⟩

theorem agree_completed (life : Life id bid known row) (agree : Agree id bid known row) :
    Agree id bid known (some ((bound draws id bid).apply (row.getD {}))) ↔
      ¬(draws.token ≠ "pending-rotation" ∧ ∃ item ∈ row, item.serviceId.isSome) := by
  cases known with
  | none =>
      refine iff_of_true (fun _ member => by cases member) ?_
      rintro ⟨-, item, present, service⟩
      simp [life item present] at service
  | some disclosed =>
      obtain ⟨-, item, present, live⟩ := life
      obtain ⟨binding, read⟩ := live.read
      have service : item.serviceId.isSome := by simp [(bindingFromItem_ok read).1]
      have made : ¬(draws.token ≠ "pending-rotation" ∧ ∃ item ∈ row, item.serviceId.isSome) ↔
          draws.token = "pending-rotation" := by
        rw [not_and_or, not_not]
        exact or_iff_left fun none => none ⟨item, present, service⟩
      rw [made]
      constructor
      · intro agree'
        have stored := (agree' disclosed rfl).2 _ rfl rfl
        exact Option.some.inj stored
      · rintro token _ ⟨⟩
        refine ⟨(agree disclosed rfl).1, ?_⟩
        rintro _ ⟨⟩ -
        exact congrArg some token

theorem agree_step {known' : Option (List BindCredentials)} {row' : Option BindingItem}
    (life : Life id bid (s.disclosed bid id) (s.aws.bindings (bid, id)))
    (agree : Agree id bid (s.disclosed bid id) (s.aws.bindings (bid, id)))
    (step : Discloses s bid id i known' row') :
    Agree id bid known' row' ↔ ¬s.Contradicts bid id i := by
  cases step with
  | opened absent now =>
      refine iff_of_true ?_ ?_
      · rintro _ ⟨⟩
        refine ⟨fun c member => List.mem_singleton.mp member, ?_⟩
        rintro _ ⟨⟩ ⟨⟩
      · rintro ⟨_, item, -, -, present, -⟩
        simp [absent] at present
  | @repeated payload serial time item binding bindable present read service plan =>
      rw [contradicts_repeated bindable present read service plan]
      rw [present] at life agree
      cases known : s.disclosed bid id with
      | none =>
          rw [known] at life
          cases (life item rfl).symm.trans (bindingFromItem_ok read).1
      | some disclosed =>
          rw [known] at life agree
          have live := life.readable rfl (by simp [(bindingFromItem_ok read).1])
          rw [Option.map_some, agree.append]
          refine ⟨fun shown state => shown_uncompleted live read state shown, ?_⟩
          exact fun completed => live.shown read completed ((agree disclosed rfl).2 item rfl)
  | @fetched serial time item binding present read shown =>
      have quiet : ¬s.Contradicts bid id (.request (.fetchBinding id bid) serial time) := by
        rintro ⟨_, _, ⟨⟩, -⟩
      rw [present] at life agree
      refine iff_of_true ?_ quiet
      cases known : s.disclosed bid id with
      | none => exact fun _ member => by cases member
      | some disclosed =>
          rw [known] at life agree
          have live := life.readable rfl (by simp [(bindingFromItem_ok read).1])
          rw [Option.map_some, agree.append]
          exact live.shown read (live.completed read shown) ((agree disclosed rfl).2 item rfl)
  | closed =>
      refine iff_of_true (fun _ member => by cases member) ?_
      rintro ⟨_, _, ⟨⟩, -⟩
  | completed head =>
      rw [contradicts_completed head]
      exact agree_completed life agree
  | same quiet => exact iff_of_true agree quiet

theorem credentials_agree_iff (settings : Settings) (steps : List Step) :
    (∀ before, before <+: steps → ∀ bid id,
      (Broker.after settings before).CredentialsAgree bid id) ↔
      Machine.Along (Broker.step settings) (fun s i => ∀ bid id, ¬s.Contradicts bid id i) .init
        steps := by
  refine Machine.invariant_iff_along (I := fun s => ∀ bid id, s.CredentialsAgree bid id)
    (J := fun s : Broker => s.aws.Sorted ∧
      ∀ bid id, Life id bid (s.disclosed bid id) (s.aws.bindings (bid, id))) _ ?_ ?_ ?_ ?_
  · rintro s i ⟨sorted, life⟩
    exact ⟨sorted.step i, fun bid id =>
      (life bid id).step (discloses_step settings sorted (life bid id) i)⟩
  · rintro s i ⟨sorted, life⟩ agree
    refine forall_congr' fun bid => forall_congr' fun id => ?_
    have step := discloses_step settings sorted (life bid id) i
    refine (credentialsAgree_iff ((life bid id).step step)).trans ?_
    exact agree_step (life bid id) ((credentialsAgree_iff (life bid id)).mp (agree bid id)) step
  · exact ⟨Aws.Sorted.init, fun bid id item member => by cases member⟩
  · intro bid id
    have agree : Agree id bid (Broker.init.disclosed bid id) (Broker.init.aws.bindings (bid, id)) :=
      fun _ known => by cases known
    exact agree.credentialsAgree

end Regnant.Osb
