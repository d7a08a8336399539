import Regnant.Proof.BindingSteps

/-!
# Unbinding

`BindingStore.complete` makes an item when there is none, and the bind message of a binding that was
removed in the meantime is handled like any other. An unbind is final exactly in the runs in which
no bind message is handled while its binding has no item.
-/

namespace Regnant.Osb
open Function (update update_of_ne)

inductive BindingAction where
  | bind
  | unbind
  deriving DecidableEq

def Event.bindingAction (bid id : String) : Event → Option BindingAction
  | .answered _ (.bind id' bid' _) response =>
      if (bid', id') = (bid, id) ∧ response.accepted then some .bind else none
  | .answered _ (.unbind id' bid' _ _) response =>
      if (bid', id') = (bid, id) ∧ response.accepted then some .unbind else none
  | _ => none

def Broker.lastAction (s : Broker) (bid id : String) : Option BindingAction :=
  (s.history.filterMap (Event.bindingAction bid id)).getLast?

def Broker.UnbindFinal (s : Broker) : Prop :=
  ∀ bid id, s.lastAction bid id = some .unbind → s.aws.bindings (bid, id) = none ∧
    ∀ self now, (s.aws.answer self now (.fetchBinding id bid)).1 =
      ⟨404, .error "BindingNotFound" s!"binding {bid} not found"⟩

/-- The step handles the bind message of a binding that has no item. -/
def Broker.Revives (s : Broker) : Step → Prop
  | .work .binding _ => ∃ receipt id bid payload rest,
      s.aws.bindingTasks = ⟨receipt, .object (.bind id bid payload)⟩ :: rest ∧
        s.aws.bindings (bid, id) = none
  | _ => False

variable {settings : Settings} {self : ExecutionName} {now id bid : String} {s s' : Broker}
  {w' : Aws} {i : Step} {e : Event}

theorem answer_fetchBinding_absent {w : Aws} (absent : w.bindings (bid, id) = none) :
    w.answer self now (.fetchBinding id bid) =
      (⟨404, .error "BindingNotFound" s!"binding {bid} not found"⟩, w) := by
  simp [Aws.answer, app, respond, fetchBinding, run_getBinding_none absent, OsbErrorKind.statusCode,
    OsbErrorKind.errorCode]

theorem unbindFinal_iff : s.UnbindFinal ↔
    ∀ bid id, s.lastAction bid id = some .unbind → s.aws.bindings (bid, id) = none := by
  constructor
  · intro final bid id last
    exact (final bid id last).1
  · intro gone bid id last
    refine ⟨gone bid id last, fun self now => ?_⟩
    rw [answer_fetchBinding_absent (gone bid id last)]

theorem lastAction_concat : Broker.lastAction ⟨w', s.history ++ [e]⟩ bid id =
    (e.bindingAction bid id).or (s.lastAction bid id) := by
  cases h : e.bindingAction bid id <;> simp [Broker.lastAction, h]

inductive ItemStep (s : Broker) (bid id : String) : Step → Broker → Prop where
  | created {i : Step} {s' : Broker} (absent : s.aws.bindings (bid, id) = none)
      (row : s'.aws.bindings (bid, id) ≠ none) (last : s'.lastAction bid id = some .bind) :
      ItemStep s bid id i s'
  | found {i : Step} {s' : Broker} (present : s.aws.bindings (bid, id) ≠ none)
      (row : s'.aws.bindings (bid, id) = s.aws.bindings (bid, id))
      (last : s'.lastAction bid id = some .bind) : ItemStep s bid id i s'
  | unbound {i : Step} {s' : Broker} (row : s'.aws.bindings (bid, id) = none)
      (last : s'.lastAction bid id = some .unbind) : ItemStep s bid id i s'
  | completed {draws : Draws} {receipt : ExecutionName} {payload : BindRequest}
      {rest : List Message} {s' : Broker}
      (head : s.aws.bindingTasks = ⟨receipt, .object (.bind id bid payload)⟩ :: rest)
      (row : s'.aws.bindings (bid, id) ≠ none) (last : s'.lastAction bid id = s.lastAction bid id) :
      ItemStep s bid id (.work .binding draws) s'
  | unseen {i : Step} {s' : Broker} (row : s'.aws.bindings (bid, id) = s.aws.bindings (bid, id))
      (last : s'.lastAction bid id = s.lastAction bid id) : ItemStep s bid id i s'

theorem lastAction_concat_none (unseen : e.bindingAction bid id = none) :
    Broker.lastAction ⟨w', s.history ++ [e]⟩ bid id = s.lastAction bid id := by
  rw [lastAction_concat, unseen, Option.none_or]

theorem lastAction_concat_some {a : BindingAction} (seen : e.bindingAction bid id = some a) :
    Broker.lastAction ⟨w', s.history ++ [e]⟩ bid id = some a := by
  rw [lastAction_concat, seen, Option.some_or]

theorem itemStep_answered {request : Request} {response : Response}
    (answered : AnsweredBinding self now s.aws request response w') :
    ItemStep s bid id i ⟨w', s.history ++ [.answered s.aws request response]⟩ := by
  cases answered with
  | @created id' bid' payload response instance' absent accepted =>
      by_cases same : (bid', id') = (bid, id)
      · obtain ⟨rfl, rfl⟩ := Prod.mk.inj same
        refine .created absent ?_ (lastAction_concat_some ?_)
        · simp [Aws.bindSent, Aws.withBinding]
        · simp [Event.bindingAction, accepted]
      · refine .unseen ?_ (lastAction_concat_none ?_)
        · exact update_of_ne (Ne.symm same) _ _
        · simp only [Event.bindingAction, same, false_and, if_false]
  | @found id' bid' payload response instance' present accepted =>
      by_cases same : (bid', id') = (bid, id)
      · obtain ⟨rfl, rfl⟩ := Prod.mk.inj same
        refine .found present rfl (lastAction_concat_some ?_)
        simp [Event.bindingAction, accepted]
      · refine .unseen rfl (lastAction_concat_none ?_)
        simp only [Event.bindingAction, same, false_and, if_false]
  | @unbound id' bid' service plan present =>
      by_cases same : (bid', id') = (bid, id)
      · obtain ⟨rfl, rfl⟩ := Prod.mk.inj same
        refine .unbound ?_ (lastAction_concat_some ?_)
        · simp [Aws.withoutBinding]
        · simp [Event.bindingAction, Response.accepted]
      · refine .unseen ?_ (lastAction_concat_none ?_)
        · exact update_of_ne (Ne.symm same) _ _
        · simp only [Event.bindingAction, same, false_and, if_false]
  | rejected rejected =>
      refine .unseen rfl (lastAction_concat_none ?_)
      cases request <;> simp [Event.bindingAction, rejected]
  | other quiet same =>
      refine .unseen (congrFun same.bindings _) (lastAction_concat_none ?_)
      cases request <;> first | rfl | exact absurd trivial quiet

theorem itemStep (bid id : String) (transition : BindingTransition settings s i s') :
    ItemStep s bid id i s' := by
  cases transition with
  | answered answered => exact itemStep_answered answered
  | @completed draws receipt id' bid' payload rest head =>
      by_cases same : (bid', id') = (bid, id)
      · obtain ⟨rfl, rfl⟩ := Prod.mk.inj same
        refine .completed head ?_ (lastAction_concat_none rfl)
        simp [Aws.acknowledged, Aws.completed]
      · exact .unseen (update_of_ne (Ne.symm same) _ _) (lastAction_concat_none rfl)
  | unbindHandled head => exact .unseen rfl (lastAction_concat_none rfl)
  | instanceHandled same =>
      exact .unseen (congrFun same.bindings _) (lastAction_concat_none rfl)
  | idle empty => exact .unseen rfl rfl

structure Broker.Tracked (s : Broker) : Prop where
  absent : ∀ bid id, s.aws.bindings (bid, id) = none → s.lastAction bid id ≠ some .bind
  queued : ∀ m ∈ s.aws.bindingTasks, ∀ id bid payload,
    m.body = .object (.bind id bid payload) → s.lastAction bid id ≠ none

theorem lastAction_kept (known : s.lastAction bid id ≠ none) :
    Broker.lastAction ⟨w', s.history ++ [e]⟩ bid id ≠ none := by
  rw [lastAction_concat]
  cases e.bindingAction bid id with
  | none => rwa [Option.none_or]
  | some a => simp

theorem Broker.Tracked.step (tracked : s.Tracked) (transition : BindingTransition settings s i s') :
    s'.Tracked := by
  constructor
  · intro bid id absent
    cases itemStep bid id transition with
    | created absent' row last => exact absurd absent row
    | found present row last => exact absurd (row ▸ absent) present
    | unbound row last => simp [last]
    | completed head row last => exact absurd absent row
    | unseen row last => exact last ▸ tracked.absent bid id (row ▸ absent)
  · intro m member id bid payload body
    cases transition with
    | @answered request serial now response w' answered =>
        cases answered with
        | @created id' bid' payload' response instance' absent accepted =>
            rcases List.mem_append.mp member with member | member
            · exact lastAction_kept (tracked.queued m member id bid payload body)
            · obtain rfl := List.mem_singleton.mp member
              have same : Payload.bind id' bid' payload' = .bind id bid payload :=
                MessageBody.object.inj body
              simp only [Payload.bind, Payload.mk.injEq, Option.some.injEq] at same
              obtain ⟨-, rfl, rfl, -⟩ := same
              rw [lastAction_concat_some (a := .bind) (by simp [Event.bindingAction, accepted])]
              simp
        | found => exact lastAction_kept (tracked.queued m member id bid payload body)
        | @unbound id' bid' =>
            rcases List.mem_append.mp member with member | member
            · exact lastAction_kept (tracked.queued m member id bid payload body)
            · obtain rfl := List.mem_singleton.mp member
              have same : Payload.unbind id' bid' = .bind id bid payload :=
                MessageBody.object.inj body
              simp [Payload.unbind, Payload.bind] at same
        | rejected => exact lastAction_kept (tracked.queued m member id bid payload body)
        | other quiet same =>
            rw [same.bindingTasks] at member
            exact lastAction_kept (tracked.queued m member id bid payload body)
    | completed head =>
        exact lastAction_kept (tracked.queued m (head ▸ List.mem_cons_of_mem _ member) id bid
          payload body)
    | unbindHandled head =>
        exact lastAction_kept (tracked.queued m (head ▸ List.mem_cons_of_mem _ member) id bid
          payload body)
    | instanceHandled same =>
        rw [same.bindingTasks] at member
        exact lastAction_kept (tracked.queued m member id bid payload body)
    | idle => exact tracked.queued m member id bid payload body

theorem unbindFinal_step (tracked : s.Tracked) (final : s.UnbindFinal)
    (transition : BindingTransition settings s i s') : s'.UnbindFinal ↔ ¬s.Revives i := by
  rw [unbindFinal_iff] at final ⊢
  constructor
  · intro final' revives
    -- the item comes back although nothing was asked for
    cases i with
    | request => exact revives
    | work queue draws =>
        cases queue with
        | provision => exact revives
        | binding =>
            obtain ⟨receipt, id, bid, payload, rest, head, absent⟩ := revives
            have queued := tracked.queued ⟨receipt, .object (.bind id bid payload)⟩ (by simp [head])
              id bid payload rfl
            have last : s.lastAction bid id = some .unbind := by
              cases action : s.lastAction bid id with
              | none => exact absurd action queued
              | some a =>
                  cases a with
                  | bind => exact absurd action (tracked.absent bid id absent)
                  | unbind => rfl
            cases transition with
            | @completed _ _ id' bid' payload' _ head' =>
                have same := List.cons.inj (head.symm.trans head')
                simp only [Message.mk.injEq, MessageBody.object.injEq, Payload.bind,
                  Payload.mk.injEq, Option.some.injEq, true_and] at same
                obtain ⟨⟨-, rfl, rfl, -⟩, -⟩ := same
                have gone := final' bid id ((lastAction_concat_none rfl).trans last)
                simp [Aws.acknowledged, Aws.completed] at gone
            | unbindHandled head' =>
                have same := List.cons.inj (head.symm.trans head')
                simp [Payload.bind, Payload.unbind] at same
            | idle empty => simp [Aws.tasks, head] at empty
  · intro kept bid id last
    cases itemStep bid id transition with
    | created absent row last' => simp [last'] at last
    | found present row last' => simp [last'] at last
    | unbound row last' => exact row
    | completed head row last' =>
        exact absurd ⟨_, id, bid, _, _, head, final bid id (last' ▸ last)⟩ kept
    | unseen row last' => exact row ▸ final bid id (last' ▸ last)

/-- Unbinding is final in every state of a run exactly when the run handles no bind message of a
binding without an item. -/
theorem unbind_final_iff (settings : Settings) (steps : List Step) :
    (∀ before, before <+: steps → (Broker.after settings before).UnbindFinal) ↔
      Machine.Along (Broker.step settings) (fun s i => ¬s.Revives i) .init steps := by
  refine Machine.invariant_iff_along (I := Broker.UnbindFinal)
    (J := fun s : Broker => s.aws.Sorted ∧ s.Tracked) _ ?_ ?_ ⟨Aws.Sorted.init, ?_⟩ ?_
  · rintro s i ⟨sorted, tracked⟩
    exact ⟨sorted.step i, tracked.step (step_bindingTransition sorted i)⟩
  · rintro s i ⟨sorted, tracked⟩ final
    exact unbindFinal_step tracked final (step_bindingTransition sorted i)
  · exact ⟨fun bid id _ => by simp [Broker.lastAction, Broker.init],
      fun m member => absurd member List.not_mem_nil⟩
  · exact unbindFinal_iff.mpr fun bid id _ => rfl

def lateCompletion : List Step :=
  let create : Step := .request (.provision "a" ⟨"s", "p", ∅, ∅⟩ true) 0 "now"
  let bind : Step := .request (.bind "a" "b" ⟨"s", "p", ∅⟩) 1 "now"
  let unbind : Step := .request (.unbind "a" "b" "s" "p") 2 "now"
  [create, bind, unbind, .work .binding ⟨"now", "token"⟩]

theorem unbind_not_always_final :
    ¬∀ settings steps, (Broker.after settings steps).UnbindFinal := by
  intro always
  have gone := (always {} lateCompletion "b" "a" (by decide)).1
  revert gone
  decide

end Regnant.Osb
