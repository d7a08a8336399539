import Regnant.Proof.Draining

namespace Regnant.Osb
open Function (update)

structure Aws.Idle (w : Aws) : Prop where
  provision : w.provisionTasks = []
  binding : w.bindingTasks = []

variable {settings : Settings} {w w' w'' : Aws} {self : ExecutionName} {now id bid : String}
  {request : Request} {n : Nat} {effect : Bool}

theorem Aws.Retried.of_accepted
    (accepted : ∀ self now, (w.answer self now request).1.accepted)
    (retried : Retried request w w') : ∃ self now, w' = (w.answer self now request).2 := by
  cases retried with
  | accepted self now => exact ⟨self, now, rfl⟩
  | rejected self now rejected => exact absurd (accepted self now) rejected

theorem Aws.Retried.of_unchanged (unchanged : ∀ self now, (w.answer self now request).2 = w)
    (retried : Retried request w w') : w' = w := by
  induction retried with
  | accepted self now => exact unchanged self now
  | rejected self now _ again ih =>
      rw [unchanged self now] at ih
      exact ih unchanged

theorem Aws.Retried.not_of_rejected
    (rejected : ∀ self now, ¬(w.answer self now request).1.accepted)
    (unchanged : ∀ self now, (w.answer self now request).2 = w) : ¬Retried request w w' := by
  intro retried
  induction retried with
  | accepted self now accepted => exact rejected self now accepted
  | rejected self now _ again ih =>
      rw [unchanged self now] at ih
      exact ih rejected unchanged

theorem Aws.Drained.of_idle (idle : w.Idle) (drained : Drained settings w w') : w' = w := by
  cases drained with
  | empty => rfl
  | work queue draws head =>
      cases queue with
      | provision => cases idle.provision.symm.trans head
      | binding => cases idle.binding.symm.trans head

theorem completes_of_unchanged (idle : w.Idle)
    (cut : ∀ self now, w.cut self now request n effect = w)
    (unchanged : ∀ self now, (w.answer self now request).2 = w) :
    w.Completes settings request n effect := by
  intro self self' now now' retried final final' again drained drained'
  rw [cut self now] at again
  rw [unchanged self' now'] at drained'
  obtain rfl := again.of_unchanged unchanged
  rw [drained.of_idle idle, drained'.of_idle idle]
  exact .refl _

structure Aws.Reaches (w t : Aws) (queue : QueueName) (p : Payload) : Prop where
  waiting : w.tasks queue ≠ []
  only : w.Only queue p
  same : w.Same t

theorem completes_of_requeued (queue : QueueName) {p : Payload} {t : Aws}
    (repeatable : p.Repeatable settings queue)
    (again : ∀ self now retried, Aws.Retried request (w.cut self now request n effect) retried →
      retried.Reaches t queue p)
    (uncut : ∀ self now, (w.answer self now request).2.Reaches t queue p) :
    w.Completes settings request n effect := by
  intro self self' now now' retried final final' repeated drained drained'
  have first := again self now retried repeated
  have second := uncut self' now'
  exact same_of_drained repeatable ⟨first.waiting, first.only⟩ ⟨second.waiting, second.only⟩
    (first.same.trans second.same.symm) drained drained'

def Aws.withRow (w : Aws) (id : String) (item : InstanceItem) : Aws :=
  { w with instances := update w.instances id (some item) }

def Aws.queued (w : Aws) (self : ExecutionName) (id : String) (item : InstanceItem)
    (p : Payload) : Aws :=
  { w.withRow id item with provisionTasks := w.provisionTasks ++ [⟨self, .object p⟩] }

structure Aws.Begun (s w : Aws) (id : String) (p : Payload) : Prop where
  rows : ∀ id', id' ≠ id → s.instances id' = w.instances id'
  bindings : s.bindings = w.bindings
  bucket : s.bucket = w.bucket
  bindingTasks : s.bindingTasks = []
  only : ∀ m ∈ s.provisionTasks, m.body = .object p

theorem begun_self (idle : w.Idle) (id : String) (p : Payload) : w.Begun w id p :=
  ⟨fun _ _ => rfl, rfl, rfl, idle.binding, by simp [idle.provision]⟩

theorem begun_withRow (idle : w.Idle) (id : String) (item : InstanceItem) (p : Payload) :
    (w.withRow id item).Begun w id p :=
  ⟨fun _ other => Function.update_of_ne other _ _, rfl, rfl, idle.binding,
    by simp [Aws.withRow, idle.provision]⟩

theorem begun_queued (idle : w.Idle) (self : ExecutionName) (id : String) (item : InstanceItem)
    (p : Payload) : (w.queued self id item p).Begun w id p :=
  ⟨fun _ other => Function.update_of_ne other _ _, rfl, rfl, idle.binding,
    by simp [Aws.queued, idle.provision]⟩

theorem queued_reaches {s : Aws} {p : Payload} (begun : s.Begun w id p) (self : ExecutionName)
    {item item' : InstanceItem} (same : item.untimed = item'.untimed) :
    (s.queued self id item p).Reaches (w.withRow id item') .provision p := by
  refine ⟨by simp [Aws.queued, Aws.tasks], ?_, fun id' => ?_, fun key => ?_, begun.bucket⟩
  · intro queue m member
    cases queue with
    | binding =>
        have member : m ∈ s.bindingTasks := member
        exact absurd (begun.bindingTasks ▸ member) List.not_mem_nil
    | provision =>
        refine ⟨rfl, ?_⟩
        rcases List.mem_append.mp member with member | member
        · exact begun.only m member
        · rw [List.mem_singleton.mp member]
  · by_cases here : id' = id
    · simp [Aws.queued, Aws.withRow, here, same]
    · simp [Aws.queued, Aws.withRow, here, begun.rows id' here]
  · rw [show (s.queued self id item p).bindings = s.bindings from rfl, begun.bindings]
    rfl

end Regnant.Osb
