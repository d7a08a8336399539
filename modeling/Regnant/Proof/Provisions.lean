import Regnant.Proof.Effects

namespace Regnant.Osb

def InstanceItem.Has (item : InstanceItem) (payload : ProvisionRequest) : Prop :=
  item.serviceId = some payload.serviceId ∧ item.planId = some payload.planId ∧
    item.parameters = some payload.parameters ∧ item.context = some payload.context
  deriving Decidable

/-- The configuration of an accepted PUT is that of the row afterwards, and a PUT that differs from
the row is answered 409 and changes nothing. -/
structure Aws.TakesProvision (w : Aws) (caller : ExecutionName) (now id : String)
    (payload : ProvisionRequest) (acceptsIncomplete : Bool) : Prop where
  taken : (w.answer caller now (.provision id payload acceptsIncomplete)).1.status = 202 →
    ∃ item, (w.answer caller now (.provision id payload acceptsIncomplete)).2.instances id =
      some item ∧ item.Has payload
  conflict : ∀ item, w.instances id = some item → ¬item.Has payload →
    (w.answer caller now (.provision id payload acceptsIncomplete)).1.status = 409 ∧
      (w.answer caller now (.provision id payload acceptsIncomplete)).2 = w

def InstanceItem.Differs (id : String) (item : InstanceItem) (payload : ProvisionRequest) : Prop :=
  ∃ inst, instanceFromItem id item = .ok inst ∧
    ¬(inst.serviceId = payload.serviceId ∧ inst.planId = payload.planId)

variable {self : ExecutionName} {now id : String} {w : Aws} {payload : ProvisionRequest}
  {item : InstanceItem} {acceptsIncomplete : Bool}

theorem takesProvision_absent (absent : w.instances id = none) :
    w.TakesProvision self now id payload acceptsIncomplete := by
  refine ⟨fun accepted => ?_, fun item present => by simp [absent] at present⟩
  by_cases valid : validInstanceId id
  · cases acceptsIncomplete with
    | false => simp [answer_provision_sync valid] at accepted
    | true =>
        rw [answer_provision_absent valid absent]
        exact ⟨_, Function.update_self .., rfl, rfl, rfl, rfl⟩
  · simp [answer_provision_invalid valid] at accepted

theorem answer_provision_conflict (present : w.instances id = some item) :
    (w.answer self now (.provision id payload acceptsIncomplete)).1.status = 409 ↔
      validInstanceId id ∧ acceptsIncomplete = true ∧ item.Differs id payload := by
  by_cases valid : validInstanceId id
  · cases acceptsIncomplete with
    | false => simp [answer_provision_sync valid]
    | true =>
        rw [answer_provision_present valid present]
        cases read : instanceFromItem id item with
        | error e => simp [InstanceItem.Differs, read]
        | ok inst =>
            by_cases same : inst.serviceId = payload.serviceId ∧ inst.planId = payload.planId
            · simp [InstanceItem.Differs, read, same]
            · simpa [InstanceItem.Differs, read, same, valid] using not_and.mp same
  · simp [answer_provision_invalid valid, valid]

theorem answer_provision_keeps (present : w.instances id = some item) :
    (w.answer self now (.provision id payload acceptsIncomplete)).2 = w := by
  by_cases valid : validInstanceId id
  · cases acceptsIncomplete with
    | false => rw [answer_provision_sync valid]
    | true => rw [answer_provision_present valid present]
  · rw [answer_provision_invalid valid]

/-- In every state, a PUT is taken or refused as it should be exactly when its instance has no row,
the row has just what the PUT brings, or the PUT is admitted and the row is of another service or
plan. -/
theorem provision_taken_iff (w : Aws) (self : ExecutionName) (now id : String)
    (payload : ProvisionRequest) (acceptsIncomplete : Bool) :
    w.TakesProvision self now id payload acceptsIncomplete ↔ ∀ item ∈ w.instances id,
      item.Has payload ∨
        validInstanceId id ∧ acceptsIncomplete = true ∧ item.Differs id payload := by
  cases row : w.instances id with
  | none => exact iff_of_true (takesProvision_absent row) fun item present => by cases present
  | some item =>
      have conflict : (w.answer self now
          (.provision id payload acceptsIncomplete)).1.status = 409 ↔ _ :=
        answer_provision_conflict row
      have keeps : (w.answer self now (.provision id payload acceptsIncomplete)).2 = w :=
        answer_provision_keeps row
      constructor
      · rintro takes _ ⟨⟩
        by_cases has : item.Has payload
        · exact .inl has
        · exact .inr (conflict.mp (takes.conflict item row has).1)
      · intro distinguished
        rcases distinguished item rfl with has | differs
        · refine ⟨fun _ => ⟨item, by rw [keeps, row], has⟩, fun item' row' other => ?_⟩
          obtain rfl := Option.some.inj (row.symm.trans row')
          exact absurd has other
        · have answered := conflict.mpr differs
          exact ⟨fun accepted => by simp [answered] at accepted, fun _ _ _ => ⟨answered, keeps⟩⟩

theorem provision_not_always_taken :
    ¬∀ settings steps self now id payload,
      (Broker.after settings steps).aws.TakesProvision self now id payload true := by
  intro always
  let create : Step := .request (.provision "a" ⟨"s", "p", ∅, ∅⟩ true) 0 "now"
  let other : ProvisionRequest := ⟨"s", "p", ∅, Finmap.singleton "x" (.bool true)⟩
  obtain ⟨item, row, -, -, parameters, -⟩ :=
    (always {} [create] ⟨"a", 1⟩ "now" "a" other).taken (by decide)
  have kept : (((Broker.after {} [create]).aws.answer ⟨"a", 1⟩ "now"
      (.provision "a" other true)).2.instances "a").bind (·.parameters) = some ∅ := by decide
  rw [row, Option.bind_some, parameters] at kept
  exact absurd kept (by decide)

end Regnant.Osb
