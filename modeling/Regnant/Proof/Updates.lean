import Regnant.Proof.View

/-!
# Accepted updates

The worker writes the plan and the parameters of an update message back over the row. While a newer
update waits, this puts the row behind, and a PATCH accepted then builds on the old row. Without
such a PATCH no accepted update is lost.
-/

namespace Regnant.Osb

def Accepted.creation : Accepted → Option ProvisionRequest
  | .created payload => some payload
  | _ => none

def Accepted.patch : Accepted → Option UpdateRequest
  | .updated payload => some payload
  | _ => none

def creation (accepted : List Accepted) : Option ProvisionRequest :=
  accepted.findSome? Accepted.creation

def patches (accepted : List Accepted) : List UpdateRequest :=
  accepted.filterMap Accepted.patch

def lastPlan (payload : ProvisionRequest) (updates : List UpdateRequest) : String :=
  ((payload.planId :: updates.filterMap (·.planId)).filter (· ≠ "")).getLastD ""

def mergedParameters (payload : ProvisionRequest) (updates : List UpdateRequest) : Dict :=
  updates.foldl (fun parameters u => parameters.merge u.parameters) payload.parameters

def Broker.KeepsUpdates (s : Broker) (id : String) : Prop :=
  ∀ payload ∈ creation (s.accepted id), ∃ item ∈ s.aws.instances id,
    item.planId = some (lastPlan payload (patches (s.accepted id))) ∧
      item.parameters = some (mergedParameters payload (patches (s.accepted id)))
  deriving Decidable

theorem creation_concat (accepted : List Accepted) (a : Accepted) :
    creation (accepted ++ [a]) = (creation accepted).or a.creation := by
  cases h : a.creation <;> simp [creation, List.findSome?_append, h]

theorem patches_concat (accepted : List Accepted) (a : Accepted) :
    patches (accepted ++ [a]) = patches accepted ++ a.patch.toList := by
  cases h : a.patch <;> simp [patches, h]

theorem lastPlan_concat (payload : ProvisionRequest) (updates : List UpdateRequest)
    (u : UpdateRequest) :
    lastPlan payload (updates ++ [u]) = planOr u.planId (lastPlan payload updates) := by
  have split : (payload.planId :: (updates ++ [u]).filterMap (·.planId)).filter (· ≠ "") =
      (payload.planId :: updates.filterMap (·.planId)).filter (· ≠ "") ++
        (u.planId.toList.filter (· ≠ "")) := by
    rw [← List.filter_append, List.cons_append, List.filterMap_append]
    cases plan : u.planId <;> simp [plan]
  rw [lastPlan, lastPlan, split]
  cases u.planId with
  | none => simp [planOr]
  | some plan =>
      by_cases empty : plan = "" <;> simp [planOr, empty]

theorem lastPlan_nil (payload : ProvisionRequest) : lastPlan payload [] = payload.planId := by
  by_cases empty : payload.planId = "" <;> simp [lastPlan, empty]

theorem mergedParameters_concat (payload : ProvisionRequest) (updates : List UpdateRequest)
    (u : UpdateRequest) :
    mergedParameters payload (updates ++ [u]) =
      (mergedParameters payload updates).merge u.parameters := by
  simp [mergedParameters]

def Payload.writeBack (p : Payload) : Option (String × Dict) :=
  match p.op, p.planId, p.parameters with
  | some .update, some plan, some parameters => some (plan, parameters)
  | _, _, _ => none

/-- An update of the instance waits, and the row does not have what the newest one will write. -/
def Aws.Stale (w : Aws) (id : String) : Prop :=
  ∃ item ∈ w.instances id, ∃ u ∈ newest Payload.writeBack (w.tasksAbout id),
    (item.planId, item.parameters) ≠ (some u.1, some u.2)
  deriving Decidable

def Step.patched : Step → Option String
  | .request (.update id _ true) _ _ => some id
  | _ => none

structure View.Current (v : View) (plan : String) (parameters : Dict) (item : InstanceItem) :
    Prop where
  row : v.row = some item
  complete : item.Complete
  kept : ∀ p ∈ v.tasks, p.op ≠ some .deprovision
  last : newest Payload.writeBack v.tasks = some (plan, parameters) ∨
    newest Payload.writeBack v.tasks = none ∧ item.planId = some plan ∧
      item.parameters = some parameters

inductive View.Lineage (v : View) : Prop where
  | absent (row : v.row = none) (tasks : v.tasks = []) (created : creation v.accepted = none)
      (patched : patches v.accepted = [])
  | current {payload item} (created : creation v.accepted = some payload)
      (current : v.Current (lastPlan payload (patches v.accepted))
        (mergedParameters payload (patches v.accepted)) item)
  | deprovisioned (member : .deprovisioned ∈ v.accepted)

/-- The condition on a run: every waiting message renders, and no PATCH finds the row behind. -/
def Broker.UpdatesInStep (id : String) (s : Broker) (i : Step) : Prop :=
  s.aws.TasksRender ∧ ¬(i.patched = some id ∧ s.aws.Stale id)
  deriving Decidable

theorem View.Current.row_current {settings : Settings} {id : String} {s : Broker} {plan : String}
    {parameters : Dict} {item : InstanceItem}
    (current : (s.view settings id).Current plan parameters item) (inStep : ¬s.aws.Stale id) :
    item.planId = some plan ∧ item.parameters = some parameters := by
  rcases current.last with newest | ⟨-, row⟩
  · by_contra behind
    refine inStep ⟨item, current.row, (plan, parameters), newest, ?_⟩
    simpa using behind
  · exact row

theorem View.Current.handled {v : View} {plan : String} {parameters : Dict}
    {item item' : InstanceItem} {artifact : Option Value} {p : Payload} {waiting : List Payload}
    (current : v.Current plan parameters item) (tasks : v.tasks = p :: waiting)
    (complete : item'.Complete)
    (written : item'.planId = (p.writeBack.map (·.1)).or item.planId ∧
      item'.parameters = (p.writeBack.map (·.2)).or item.parameters) :
    View.Current { v with row := some item', artifact, tasks := waiting } plan parameters
      item' := by
  refine ⟨rfl, complete, fun q member => current.kept q (by simp [tasks, member]), ?_⟩
  have last := current.last
  simp only [tasks, newest_cons] at last
  cases h : newest Payload.writeBack waiting with
  | some u => simpa [h] using last
  | none =>
      -- no other update waits, so what the message writes back is what the row is to have
      rw [h, Option.none_or] at last
      rcases last with own | ⟨own, row⟩
      · exact .inr ⟨rfl, by simpa [own] using written⟩
      · exact .inr ⟨rfl, by simpa [own, row] using written⟩

theorem lineage_absent {settings : Settings} {id : String} {s : Broker} {i : Step} {v' : View}
    (row : (s.view settings id).row = none) (tasks : (s.view settings id).tasks = [])
    (created : creation (s.view settings id).accepted = none)
    (patched : patches (s.view settings id).accepted = [])
    (step : Local settings id s i v') : v'.Lineage := by
  obtain ⟨now, payload, rfl⟩ := step.of_unused row tasks
  have created' : creation ((s.view settings id).accepted ++ [.created payload]) =
      some payload := by
    simp [creation_concat, created, Accepted.creation]
  refine .current created' ⟨rfl, .newItem _ _ _ _ _, ?_, .inr ⟨rfl, ?_, ?_⟩⟩
  · simp [Payload.provision]
  · simp [patches_concat, patched, Accepted.patch, lastPlan_nil, InstanceStore.newItem]
  · simp [patches_concat, patched, Accepted.patch, mergedParameters, InstanceStore.newItem]

theorem lineage_current {settings : Settings} {id : String} {s : Broker} {i : Step} {v' : View}
    {payload : ProvisionRequest} {item : InstanceItem}
    (created : creation (s.view settings id).accepted = some payload)
    (current : (s.view settings id).Current
      (lastPlan payload (patches (s.view settings id).accepted))
      (mergedParameters payload (patches (s.view settings id).accepted)) item)
    (inStep : s.UpdatesInStep id i) (step : Local settings id s i v') : v'.Lineage := by
  cases step with
  | created absent => simp [current.row] at absent
  | @matched payload' serial now item' inst present read service plan =>
      refine .current ((creation_concat _ _).trans (by rw [created, Option.some_or]))
        ⟨current.row, current.complete, current.kept, ?_⟩
      simpa [patches_concat, Accepted.patch] using current.last
  | @updateQueued payload' serial now item' inst present read =>
      -- the PATCH merges into the row, which is not behind the queue
      obtain rfl : item = item' := Option.some.inj (current.row.symm.trans present)
      obtain ⟨plan, parameters⟩ := current.row_current (fun stale => inStep.2 ⟨rfl, stale⟩)
      obtain ⟨-, plan', -, parameters', -⟩ := instanceFromItem_ok read
      have samePlan := Option.some.inj (plan'.symm.trans plan)
      rw [parameters, Option.getD_some] at parameters'
      refine .current ((creation_concat _ _).trans (by rw [created, Option.some_or]))
        ⟨rfl, current.complete.apply _, ?_, .inl ?_⟩
      · intro p member
        rcases List.mem_append.mp member with member | member
        · exact current.kept p member
        · simp [List.mem_singleton.mp member, Payload.update]
      · simp [newest_concat, Payload.writeBack, Payload.update, patches_concat,
          Accepted.patch, lastPlan_concat, mergedParameters_concat, samePlan, parameters']
  | deprovisionQueued present read => exact .deprovisioned (by simp)
  | provisioned head tasks rendered =>
      rw [current.row]
      exact .current created (current.handled tasks (current.complete.apply _) ⟨rfl, rfl⟩)
  | provisionFailed tasks fails =>
      exact .current created (current.row ▸ current.handled tasks current.complete ⟨rfl, rfl⟩)
  | @updated draws service plan parameters waiting item' inst document tasks present read
      rendered =>
      obtain rfl : item = item' := Option.some.inj (current.row.symm.trans present)
      exact .current created (current.handled tasks (current.complete.apply _) ⟨rfl, rfl⟩)
  | updateFailed tasks present fails =>
      have renders := inStep.1.task (tasks ▸ List.mem_cons_self)
      exact absurd (renders id rfl _ rfl _ rfl) fails
  | @updateUnreadable _ _ _ _ _ item' _ tasks present unreadable =>
      obtain rfl : item = item' := Option.some.inj (current.row.symm.trans present)
      obtain ⟨inst, read⟩ := current.complete.read id
      simp [read] at unreadable
  | updateMissed tasks absent => simp [current.row] at absent
  | deprovisioned tasks =>
      exact absurd rfl (current.kept (.deprovision id) (by simp [tasks]))

theorem lineage_step {settings : Settings} {id : String} {s : Broker} {i : Step} {v' : View}
    (lineage : (s.view settings id).Lineage) (inStep : s.UpdatesInStep id i)
    (step : Local settings id s i v') : v'.Lineage := by
  cases lineage with
  | absent row tasks created patched => exact lineage_absent row tasks created patched step
  | current created current => exact lineage_current created current inStep step
  | deprovisioned member => exact .deprovisioned (step.accepted_prefix.subset member)

/-- In every run in which the queued messages render and no PATCH of the instance is accepted while
its row is behind the queue: when the queue is empty and the instance was never deprovisioned, its
row has the last plan and the merged parameters. -/
theorem updates_kept (settings : Settings) (steps : List Step) (id : String)
    (inStep : Machine.Along (Broker.step settings) (Broker.UpdatesInStep id) .init steps)
    (kept : .deprovisioned ∉ (Broker.after settings steps).accepted id)
    (drained : (Broker.after settings steps).aws.provisionTasks = []) :
    (Broker.after settings steps).KeepsUpdates id := by
  have lineage : ((Broker.after settings steps).view settings id).Lineage :=
    view_invariant id (.absent rfl rfl rfl rfl) (fun _ _ _ => lineage_step) inStep
  intro payload created
  cases lineage with
  | absent row tasks none => simp_all [Broker.view]
  | @current payload' item created' current =>
      obtain rfl : payload' = payload := Option.some.inj (created'.symm.trans created)
      have tasks : ((Broker.after settings steps).view settings id).tasks = [] := by
        simp [Broker.view, Aws.tasksAbout, Aws.payloads, drained]
      rcases current.last with waiting | ⟨-, plan, parameters⟩
      · simp [newest, tasks] at waiting
      · exact ⟨item, current.row, plan, parameters⟩
  | deprovisioned member => exact absurd member kept

def updatesInStep : List Step :=
  let create : Step := .request (.provision "a" ⟨"s", "small", ∅, ∅⟩ true) 0 "now"
  let patch (plan key : String) (serial : Nat) : Step :=
    .request (.update "a" ⟨"s", some plan, Finmap.singleton key (.bool true)⟩ true) serial "now"
  let work : Step := .work .provision ⟨"now", "token"⟩
  [create, patch "" "x" 1, work, patch "large" "y" 2, work, work]

theorem updates_kept_in_step : (Broker.after {} updatesInStep).KeepsUpdates "a" :=
  updates_kept {} updatesInStep "a" (by decide) (by decide) (by decide)

/-! ## A lost update

The first of two updates is written back, and the next PATCH builds on it instead of the second. -/

def lostUpdate : List Step :=
  let create : Step := .request (.provision "a" ⟨"s", "small", ∅, ∅⟩ true) 0 "now"
  let patch (key : String) (serial : Nat) : Step :=
    .request (.update "a" ⟨"s", none, Finmap.singleton key (.bool true)⟩ true) serial "now"
  let work : Step := .work .provision ⟨"now", "token"⟩
  [create, patch "x" 1, patch "y" 2, work, work, patch "z" 3, work, work]

theorem updates_not_always_kept :
    ¬∀ settings steps id,
      Machine.Along (Broker.step settings) (fun s _ => s.aws.TasksRender) .init steps →
      (((Broker.after settings steps).accepted id).filterMap Accepted.creation).length = 1 →
      .deprovisioned ∉ (Broker.after settings steps).accepted id →
      (Broker.after settings steps).aws.provisionTasks = [] →
      (Broker.after settings steps).KeepsUpdates id := by
  intro always
  have kept : (Broker.after {} lostUpdate).KeepsUpdates "a" :=
    always {} lostUpdate "a" (by decide) (by decide) (by decide) (by decide)
  revert kept
  decide

end Regnant.Osb
