import Regnant.Proof.Retry.Repeating

namespace Regnant.Osb
open Function (update)

variable {settings : Settings} {w w' : Aws} {self : ExecutionName} {now id bid : String} {n : Nat}
  {effect : Bool}

/-! ## Bind -/

section Bind
variable {payload : BindRequest} {item : InstanceItem} {inst : Instance}

theorem cut_bind_created (present : w.instances id = some item)
    (read : instanceFromItem id item = .ok inst) (bindable : inst.state.bindable)
    (absent : w.bindings (bid, id) = none) :
    w.cut self now (.bind id bid payload) n effect =
      match n, effect with
      | 0, _ | 1, _ | 2, false => w
      | 2, true | 3, false => w.withBinding now id bid payload
      | _, _ => (w.withBinding now id bid payload).bindSent self id bid payload := by
  obtain ⟨binding, created⟩ : ∃ binding, bindingFromItem bid id (BindingStore.newItem now
      payload.serviceId payload.planId payload.parameters) = .ok binding := ⟨_, rfl⟩
  match n with
  | 0 => simp [Aws.cut, app, respond, bindInstance, InstanceStore.get, CallTree.invoke, perform]
  | 1 =>
      simp [Aws.cut, app, respond, bindInstance, InstanceStore.get, CallTree.invoke, perform,
        present, read, bindable, BindingStore.getOrNone, BindingStore.get]
  | 2 =>
      cases effect <;> simp [Aws.cut, app, respond, bindInstance, InstanceStore.get,
        CallTree.invoke, perform, present, read, bindable, BindingStore.getOrNone,
        BindingStore.get, absent, osbError, BindingStore.create, Aws.withBinding]
  | 3 =>
      cases effect <;> simp [Aws.cut, app, respond, bindInstance, InstanceStore.get,
        CallTree.invoke, perform, present, read, bindable, BindingStore.getOrNone,
        BindingStore.get, absent, osbError, BindingStore.create, created, TaskQueue.send,
        Aws.withBinding, Aws.bindSent]
  | n + 4 =>
      simp [Aws.cut, app, respond, bindInstance, InstanceStore.get, CallTree.invoke, perform,
        present, read, bindable, BindingStore.getOrNone, BindingStore.get, absent, osbError,
        BindingStore.create, created, TaskQueue.send, Aws.withBinding, Aws.bindSent]

theorem cut_bind_bindable {existing : BindingItem} (present : w.instances id = some item)
    (read : instanceFromItem id item = .ok inst) (bindable : inst.state.bindable)
    (bound : w.bindings (bid, id) = some existing) :
    w.cut self now (.bind id bid payload) (n + 1) effect = w := by
  cases n with
  | zero =>
      simp [Aws.cut, app, respond, bindInstance, InstanceStore.get, CallTree.invoke, perform,
        present, read, bindable, BindingStore.getOrNone, BindingStore.get]
  | succ n =>
      cases found : bindingFromItem bid id existing with
      | error e =>
          obtain ⟨key, rfl⟩ := bindingFromItem_error found
          simp [Aws.cut, app, respond, bindInstance, InstanceStore.get, CallTree.invoke, perform,
            present, read, bindable, BindingStore.getOrNone, BindingStore.get, bound, found]
      | ok binding =>
          by_cases same : binding.serviceId = payload.serviceId ∧ binding.planId = payload.planId
          · simp [Aws.cut, app, respond, bindInstance, InstanceStore.get, CallTree.invoke, perform,
              present, read, bindable, BindingStore.getOrNone, BindingStore.get, bound, found,
              Option.filter, same]
          · cases n <;> cases effect <;> simp [Aws.cut, app, respond, bindInstance,
              InstanceStore.get, CallTree.invoke, perform, present, read, bindable,
              BindingStore.getOrNone, BindingStore.get, bound, found, Option.filter, same,
              BindingStore.create, osbError]

theorem cut_bind_existing {existing : BindingItem} (bound : w.bindings (bid, id) = some existing) :
    w.cut self now (.bind id bid payload) n effect = w := by
  cases n with
  | zero => simp [Aws.cut, app, respond, bindInstance, InstanceStore.get, CallTree.invoke, perform]
  | succ n =>
      cases row : w.instances id with
      | none =>
          simp [Aws.cut, app, respond, bindInstance, InstanceStore.get, CallTree.invoke, perform,
            row, osbError]
      | some item =>
          cases read : instanceFromItem id item with
          | error e =>
              obtain ⟨key, rfl⟩ := instanceFromItem_error read
              simp [Aws.cut, app, respond, bindInstance, InstanceStore.get, CallTree.invoke,
                perform, row, read]
          | ok inst =>
              by_cases bindable : inst.state.bindable
              · exact cut_bind_bindable row read bindable bound
              · simp [Aws.cut, app, respond, bindInstance, InstanceStore.get, CallTree.invoke,
                  perform, row, read, bindable, osbError]

theorem cut_bind_unbindable (unbindable : ¬w.Bindable id) :
    w.cut self now (.bind id bid payload) n effect = w := by
  cases n with
  | zero => simp [Aws.cut, app, respond, bindInstance, InstanceStore.get, CallTree.invoke, perform]
  | succ n =>
      cases row : w.instances id with
      | none =>
          simp [Aws.cut, app, respond, bindInstance, InstanceStore.get, CallTree.invoke, perform,
            row, osbError]
      | some item =>
          cases read : instanceFromItem id item with
          | error e =>
              obtain ⟨key, rfl⟩ := instanceFromItem_error read
              simp [Aws.cut, app, respond, bindInstance, InstanceStore.get, CallTree.invoke,
                perform, row, read]
          | ok inst =>
              have closed : ¬inst.state.bindable :=
                fun bindable => unbindable ⟨item, row, inst, read, bindable⟩
              simp [Aws.cut, app, respond, bindInstance, InstanceStore.get, CallTree.invoke,
                perform, row, read, closed, osbError]

theorem answer_bind_refused (unbindable : ¬w.Bindable id) :
    (w.answer self now (.bind id bid payload)).2 = w := by
  cases row : w.instances id with
  | none => rw [answer_bind_absent row]
  | some item =>
      cases read : instanceFromItem id item with
      | error e => rw [answer_bind_unreadable row read]
      | ok inst =>
          rw [answer_bind_unbindable row read
            fun bindable => unbindable ⟨item, row, inst, read, bindable⟩]

theorem answer_bind_own (self : ExecutionName) (now' : String) (bindable : w.Bindable id)
    (row : w.bindings (bid, id) = some (BindingStore.newItem now payload.serviceId payload.planId
      payload.parameters)) :
    (w.answer self now' (.bind id bid payload)).1.accepted ∧
      (w.answer self now' (.bind id bid payload)).2 = w := by
  obtain ⟨item, present, inst, read, bindable⟩ := bindable
  rw [answer_bind_existing present read bindable row]
  simp [bindingFromItem, require, BindingStore.newItem, bind, Except.bind, pure, Except.pure,
    Response.accepted]

theorem bindSent_reaches (idle : w.Idle) (self : ExecutionName) (now now' id bid : String)
    (payload : BindRequest) :
    ((w.withBinding now id bid payload).bindSent self id bid payload).Reaches
      (w.withBinding now' id bid payload) .binding (.bind id bid payload) := by
  refine ⟨by simp [Aws.bindSent, Aws.tasks], fun queue m member => ?_, fun _ => rfl, fun key => ?_,
    rfl⟩
  · cases queue with
    | provision =>
        have member : m ∈ w.provisionTasks := member
        exact absurd (idle.provision ▸ member) List.not_mem_nil
    | binding =>
        have member : m ∈ w.bindingTasks ++ [⟨self, .object (.bind id bid payload)⟩] := member
        rw [idle.binding, List.nil_append, List.mem_singleton] at member
        exact ⟨rfl, congrArg Message.body member⟩
  · by_cases here : key = (bid, id)
    · simp [Aws.bindSent, Aws.withBinding, here, BindingStore.newItem, BindingItem.untimed]
    · simp [Aws.bindSent, Aws.withBinding, here]

theorem completes_bind (idle : w.Idle)
    (kept : ¬(w.Bindable id ∧ w.bindings (bid, id) = none ∧
      (n = 2 ∧ effect = true ∨ n = 3 ∧ effect = false))) :
    w.Completes settings (.bind id bid payload) n effect := by
  by_cases bindable : w.Bindable id
  · have opened := bindable
    obtain ⟨item, present, inst, read, open'⟩ := opened
    cases bound : w.bindings (bid, id) with
    | some existing =>
        refine completes_of_unchanged idle (fun _ _ => cut_bind_existing bound) fun self now => ?_
        rw [answer_bind_existing present read open' bound]
    | none =>
        have cuts (self : ExecutionName) (now : String) :
            w.cut self now (.bind id bid payload) n effect = w ∨
            w.cut self now (.bind id bid payload) n effect =
              (w.withBinding now id bid payload).bindSent self id bid payload := by
          rcases n with _ | _ | _ | _ | n <;> cases effect <;>
            simp_all [cut_bind_created present read open' bound]
        refine completes_of_requeued .binding (repeatable_bind settings id bid payload)
          (t := w.withBinding "" id bid payload) ?_ fun self now => ?_
        · intro self now retried again
          rcases cuts self now with cut | cut
          · rw [cut] at again
            obtain ⟨self', now', rfl⟩ := again.of_accepted fun self now => by
              simp [answer_bind_created present read open' bound, Response.accepted]
            rw [answer_bind_created present read open' bound]
            exact bindSent_reaches idle _ _ _ _ _ _
          · rw [cut] at again
            have bindable' : ((w.withBinding now id bid payload).bindSent self id bid
              payload).Bindable id := bindable
            have row : ((w.withBinding now id bid payload).bindSent self id bid payload).bindings
                (bid, id) = some (BindingStore.newItem now payload.serviceId payload.planId
                  payload.parameters) := Function.update_self _ _ _
            obtain rfl := again.of_unchanged fun self' now' =>
              (answer_bind_own self' now' bindable' row).2
            exact bindSent_reaches idle _ _ _ _ _ _
        · rw [answer_bind_created present read open' bound]
          exact bindSent_reaches idle _ _ _ _ _ _
  · exact completes_of_unchanged idle (fun _ _ => cut_bind_unbindable bindable)
      fun _ _ => answer_bind_refused bindable

end Bind

/-! ## Unbind -/

section Unbind
variable {service plan : String} {existing : BindingItem} {binding : Binding}

def Aws.Unbindable (w : Aws) (id bid service plan : String) : Prop :=
  ∃ existing ∈ w.bindings (bid, id), ∃ binding,
    bindingFromItem bid id existing = .ok binding ∧ binding.serviceId = service ∧
      binding.planId = plan

theorem cut_unbind_matched (bound : w.bindings (bid, id) = some existing)
    (read : bindingFromItem bid id existing = .ok binding) :
    w.cut self now (.unbind id bid binding.serviceId binding.planId) n effect =
      match n, effect with
      | 0, _ | 1, false => w
      | 1, true | 2, false => w.unbindSent self id bid
      | _, _ => (w.unbindSent self id bid).withoutBinding id bid := by
  match n with
  | 0 => simp [Aws.cut, app, respond, unbindInstance, BindingStore.get, CallTree.invoke, perform]
  | 1 =>
      cases effect <;> simp [Aws.cut, app, respond, unbindInstance, BindingStore.get,
        CallTree.invoke, perform, bound, read, TaskQueue.send, Aws.unbindSent]
  | 2 =>
      cases effect <;> simp [Aws.cut, app, respond, unbindInstance, BindingStore.get,
        CallTree.invoke, perform, bound, read, TaskQueue.send, BindingStore.delete, Aws.unbindSent,
        Aws.withoutBinding]
  | n + 3 =>
      simp [Aws.cut, app, respond, unbindInstance, BindingStore.get, CallTree.invoke, perform,
        bound, read, TaskQueue.send, BindingStore.delete, Aws.unbindSent, Aws.withoutBinding]

theorem cut_unbind_refused (refused : ¬w.Unbindable id bid service plan) :
    w.cut self now (.unbind id bid service plan) n effect = w := by
  cases n with
  | zero => simp [Aws.cut, app, respond, unbindInstance, BindingStore.get, CallTree.invoke, perform]
  | succ n =>
      cases bound : w.bindings (bid, id) with
      | none =>
          simp [Aws.cut, app, respond, unbindInstance, BindingStore.get, CallTree.invoke, perform,
            bound, osbError]
      | some existing =>
          cases read : bindingFromItem bid id existing with
          | error e =>
              obtain ⟨key, rfl⟩ := bindingFromItem_error read
              simp [Aws.cut, app, respond, unbindInstance, BindingStore.get, CallTree.invoke,
                perform, bound, read]
          | ok binding =>
              have differ : binding.serviceId ≠ service ∨ binding.planId ≠ plan := by
                by_contra same
                push Not at same
                exact refused ⟨existing, bound, binding, read, same⟩
              simp [Aws.cut, app, respond, unbindInstance, BindingStore.get, CallTree.invoke,
                perform, bound, read, differ, osbError]

theorem answer_unbind_refused (refused : ¬w.Unbindable id bid service plan) :
    (w.answer self now (.unbind id bid service plan)).2 = w := by
  cases bound : w.bindings (bid, id) with
  | none => rw [answer_unbind_absent bound]
  | some existing =>
      rw [answer_unbind_existing bound]
      cases read : bindingFromItem bid id existing with
      | error e => rfl
      | ok binding =>
          dsimp only
          split
          next same => exact absurd ⟨existing, bound, binding, read, same⟩ refused
          next => rfl

theorem unbindSent_reaches (s : Aws) (provision : s.provisionTasks = [])
    (only : ∀ m ∈ s.bindingTasks, m.body = .object (.unbind id bid))
    (rows : s.instances = w.instances) (bindings : s.bindings = w.bindings)
    (bucket : s.bucket = w.bucket) (self : ExecutionName) :
    ((s.unbindSent self id bid).withoutBinding id bid).Reaches (w.withoutBinding id bid) .binding
      (.unbind id bid) := by
  refine ⟨by simp [Aws.unbindSent, Aws.withoutBinding, Aws.tasks], fun queue m member => ?_,
    fun id' => ?_, fun key => ?_, bucket⟩
  · cases queue with
    | provision =>
        have member : m ∈ s.provisionTasks := member
        exact absurd (provision ▸ member) List.not_mem_nil
    | binding =>
        have member : m ∈ s.bindingTasks ++ [⟨self, .object (.unbind id bid)⟩] := member
        rcases List.mem_append.mp member with member | member
        · exact ⟨rfl, only m member⟩
        · exact ⟨rfl, congrArg Message.body (List.mem_singleton.mp member)⟩
  · simp [Aws.unbindSent, Aws.withoutBinding, rows]
  · simp [Aws.unbindSent, Aws.withoutBinding, bindings]

theorem completes_unbind (idle : w.Idle) :
    w.Completes settings (.unbind id bid service plan) n effect := by
  by_cases taken : w.Unbindable id bid service plan
  · obtain ⟨existing, bound, binding, read, rfl, rfl⟩ := taken
    have answer {s : Aws} (same : s.bindings = w.bindings) (self : ExecutionName) (now : String) :
        s.answer self now (.unbind id bid binding.serviceId binding.planId) =
          (⟨200, .operation "unbind"⟩, (s.unbindSent self id bid).withoutBinding id bid) := by
      have bound' : s.bindings (bid, id) = some existing := by rw [same]; exact bound
      rw [answer_unbind_existing bound', read]
      simp
    have cuts (self : ExecutionName) (now : String) :
        w.cut self now (.unbind id bid binding.serviceId binding.planId) n effect = w ∨
        w.cut self now (.unbind id bid binding.serviceId binding.planId) n effect =
          w.unbindSent self id bid ∨
        w.cut self now (.unbind id bid binding.serviceId binding.planId) n effect =
          (w.unbindSent self id bid).withoutBinding id bid := by
      rcases n with _ | _ | _ | n <;> cases effect <;> simp [cut_unbind_matched bound read]
    refine completes_of_requeued .binding (repeatable_unbind settings id bid)
      (t := w.withoutBinding id bid) ?_ fun self now => ?_
    · intro self now retried again
      rcases cuts self now with cut | cut | cut
      · rw [cut] at again
        obtain ⟨self', now', rfl⟩ := again.of_accepted fun self now => by
          simp [answer rfl, Response.accepted]
        rw [answer rfl]
        exact unbindSent_reaches w idle.provision (by simp [idle.binding]) rfl rfl rfl _
      · rw [cut] at again
        have same : (w.unbindSent self id bid).bindings = w.bindings := rfl
        obtain ⟨self', now', rfl⟩ := again.of_accepted fun self now => by
          simp [answer same, Response.accepted]
        rw [answer same]
        have only : ∀ m ∈ (w.unbindSent self id bid).bindingTasks,
            m.body = .object (.unbind id bid) := by
          simp [Aws.unbindSent, idle.binding]
        exact unbindSent_reaches (w := w) (w.unbindSent self id bid) idle.provision only rfl rfl rfl
          self'
      · rw [cut] at again
        have gone : ((w.unbindSent self id bid).withoutBinding id bid).bindings (bid, id) = none :=
          Function.update_self _ _ _
        refine absurd again
          (Aws.Retried.not_of_rejected (fun self' now' => ?_) fun self' now' => ?_)
        · simp [answer_unbind_absent gone, Response.accepted]
        · rw [answer_unbind_absent gone]
    · rw [answer rfl]
      exact unbindSent_reaches w idle.provision (by simp [idle.binding]) rfl rfl rfl _
  · exact completes_of_unchanged idle (fun _ _ => cut_unbind_refused taken)
      fun _ _ => answer_unbind_refused taken

end Unbind

end Regnant.Osb
