import Regnant.Lib.Table
import Regnant.Osb.Storage

namespace Regnant.Osb

def Call.onInstance (id : String) : Call → RowChange InstanceItem
  | .putInstance id' item => (RowChange.put item).onKey id' id
  | .updateInstance id' u => (RowChange.update u.apply {}).onKey id' id
  | .deleteInstance id' => RowChange.delete.onKey id' id
  | _ => .keep

def Call.onBinding (pair : String × String) : Call → RowChange BindingItem
  | .putBinding bid id item => (RowChange.put item).onKey (bid, id) pair
  | .updateBinding bid id u => (RowChange.update u.apply {}).onKey (bid, id) pair
  | .deleteBinding bid id => RowChange.delete.onKey (bid, id) pair
  | _ => .keep

theorem perform_instances (self : ExecutionName) (c : Call) (w : Aws) (id : String) :
    (perform self c w).2.instances id = (c.onInstance id).apply (w.instances id) := by
  cases c with
  | putInstance id' item =>
      simp only [perform]
      split
      next present => exact (RowChange.onKey_put_present present).symm
      next absent => exact (RowChange.onKey_put_absent absent).symm
  | updateInstance id' u => exact (RowChange.onKey_apply (.update u.apply {})).symm
  | deleteInstance id' => exact (RowChange.onKey_apply .delete).symm
  | putBinding bid id' item =>
      simp only [perform]
      split <;> rfl
  | sendMessage queue payload => cases queue <;> rfl
  | _ => rfl

theorem perform_bindings (self : ExecutionName) (c : Call) (w : Aws) (pair : String × String) :
    (perform self c w).2.bindings pair = (c.onBinding pair).apply (w.bindings pair) := by
  cases c with
  | putBinding bid id item =>
      simp only [perform]
      split
      next present => exact (RowChange.onKey_put_present present).symm
      next absent => exact (RowChange.onKey_put_absent absent).symm
  | updateBinding bid id u => exact (RowChange.onKey_apply (.update u.apply {})).symm
  | deleteBinding bid id => exact (RowChange.onKey_apply .delete).symm
  | putInstance id' item =>
      simp only [perform]
      split <;> rfl
  | sendMessage queue payload => cases queue <;> rfl
  | _ => rfl

theorem Call.onInstance_delete {c : Call} {id : String} (deletes : c.onInstance id = .delete) :
    c = .deleteInstance id := by
  cases c with
  | deleteInstance id' => rw [(RowChange.onKey_eq_delete deletes).1]
  | putInstance => cases (RowChange.onKey_eq_delete deletes).2
  | updateInstance => cases (RowChange.onKey_eq_delete deletes).2
  | _ => cases deletes

theorem Call.onBinding_delete {c : Call} {bid id : String}
    (deletes : c.onBinding (bid, id) = .delete) : c = .deleteBinding bid id := by
  cases c with
  | deleteBinding bid' id' =>
      obtain ⟨rfl, rfl⟩ := Prod.mk.inj (RowChange.onKey_eq_delete deletes).1
      rfl
  | putBinding => cases (RowChange.onKey_eq_delete deletes).2
  | updateBinding => cases (RowChange.onKey_eq_delete deletes).2
  | _ => cases deletes

theorem InstanceUpdate.parameters_apply (u : InstanceUpdate) {item : InstanceItem}
    {P : Dict → Prop} (here : P (item.parameters.getD ∅))
    (written : ∀ d, u.parameters = some d → P d) : P ((u.apply item).parameters.getD ∅) := by
  cases same : u.parameters with
  | none => simpa [InstanceUpdate.apply, same] using here
  | some d => simpa [InstanceUpdate.apply, same] using written d same

def Call.sent (self : ExecutionName) (queue : QueueName) : Call → List Message
  | .sendMessage queue' payload => if queue' = queue then [⟨self, .object payload⟩] else []
  | _ => []

theorem perform_tasks (self : ExecutionName) (c : Call) (w : Aws) (queue : QueueName) :
    (perform self c w).2.tasks queue = w.tasks queue ++ c.sent self queue := by
  cases c with
  | sendMessage queue' payload =>
      cases queue' <;> cases queue <;> simp [perform, Aws.tasks, Call.sent]
  | putInstance id item =>
      simp only [perform]
      split <;> exact (List.append_nil _).symm
  | putBinding bid id item =>
      simp only [perform]
      split <;> exact (List.append_nil _).symm
  | _ => exact (List.append_nil _).symm

end Regnant.Osb
