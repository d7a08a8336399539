import Regnant.Proof.LastRequest
import Regnant.Proof.Updates

/-!
# Convergence with fresh ids

An instance that is created once goes through one life: unused, live, and ending from its first
DELETE on. While it is live, the newest waiting message publishes what the accepted requests asked
for; when no message waits, that is published.
-/

namespace Regnant.Osb

def lastService (payload : ProvisionRequest) (updates : List UpdateRequest) : String :=
  (updates.getLast?.map (·.serviceId)).getD payload.serviceId

structure Published (settings : Settings) (id service : String) (item : InstanceItem)
    (artifact : Option Value) : Prop where
  complete : item.Complete
  state : item.state = some .available
  key : item.artifactKey = some (settings.artifactKey id)
  artifact : ∃ plan parameters document, item.planId = some plan ∧
    item.parameters = some parameters ∧ artifact = some document ∧
    renderResources id service plan parameters = .ok document

/-- What the broker promises of an instance when the queue is empty. -/
structure Broker.Converged (settings : Settings) (s : Broker) (id : String) : Prop where
  deleted : .deprovisioned ∈ s.accepted id →
    s.aws.instances id = none ∧ s.aws.bucket (settings.artifactKey id) = none
  live : ∀ payload ∈ creation (s.accepted id), .deprovisioned ∉ s.accepted id →
    ∃ item ∈ s.aws.instances id,
      Published settings id (lastService payload (patches (s.accepted id))) item
        (s.aws.bucket (settings.artifactKey id))
  unused : creation (s.accepted id) = none →
    s.aws.instances id = none ∧ s.aws.bucket (settings.artifactKey id) = none

inductive Progress (settings : Settings) (id service : String) (item : InstanceItem)
    (artifact : Option Value) (tasks : List Payload) : Prop where
  | provisioning {payload} (waiting : tasks = [.provision id payload])
      (requested : payload.serviceId = service) (plan : item.planId = some payload.planId)
      (parameters : item.parameters = some payload.parameters)
  | updating {front plan parameters}
      (waiting : tasks = front ++ [.update id service plan parameters])
      (kept : ∀ p ∈ front, p.op ≠ some .deprovision)
  | published (waiting : tasks = []) (published : Published settings id service item artifact)

inductive View.Life (settings : Settings) (id : String) (v : View) : Prop where
  | unused (row : v.row = none) (artifact : v.artifact = none) (tasks : v.tasks = [])
      (accepted : creation v.accepted = none ∧ patches v.accepted = [])
      (kept : .deprovisioned ∉ v.accepted)
  | live {payload item} (created : creation v.accepted = some payload)
      (kept : .deprovisioned ∉ v.accepted) (row : v.row = some item) (complete : item.Complete)
      (progress : Progress settings id (lastService payload (patches v.accepted)) item v.artifact
        v.tasks)
  | ending (created : creation v.accepted ≠ none) (deleted : .deprovisioned ∈ v.accepted)
      (dead : newest Payload.lifecycle v.tasks = some .deprovision ∨
        newest Payload.lifecycle v.tasks = none ∧ v.row = none ∧ v.artifact = none)

variable {settings : Settings} {id service : String} {item : InstanceItem}
  {artifact : Option Value} {tasks waiting : List Payload} {s : Broker} {i : Step} {v v' : View}

theorem Progress.kept (progress : Progress settings id service item artifact tasks) :
    ∀ p ∈ tasks, p.op ≠ some .deprovision := by
  cases progress with
  | provisioning waiting => simp [waiting, Payload.provision]
  | updating waiting kept =>
      intro p member
      rw [waiting] at member
      rcases List.mem_append.mp member with member | member
      · exact kept p member
      · simp [List.mem_singleton.mp member, Payload.update]
  | published waiting => simp [waiting]

theorem Progress.handled {p : Payload} {item' : InstanceItem} {artifact' : Option Value}
    (progress : Progress settings id service item artifact (p :: waiting))
    (provision : ∀ payload, p = .provision id payload → payload.serviceId = service →
      item.planId = some payload.planId → item.parameters = some payload.parameters →
      Published settings id service item' artifact')
    (update : ∀ plan parameters, p = .update id service plan parameters →
      Published settings id service item' artifact') :
    Progress settings id service item' artifact' waiting := by
  cases progress with
  | provisioning alone requested plan parameters =>
      obtain ⟨rfl, rfl⟩ := List.cons.inj alone
      exact .published rfl (provision _ rfl requested plan parameters)
  | @updating front plan parameters split kept =>
      -- only the last message publishes what was asked for, the ones before it are overwritten
      cases front with
      | nil =>
          obtain ⟨rfl, rfl⟩ := List.cons.inj split
          exact .published rfl (update _ _ rfl)
      | cons q front =>
          obtain ⟨rfl, rfl⟩ := List.cons.inj split
          exact .updating rfl fun q member => kept q (List.mem_cons_of_mem _ member)
  | published alone => cases alone

theorem lastService_concat (payload : ProvisionRequest) (updates : List UpdateRequest)
    (u : UpdateRequest) : lastService payload (updates ++ [u]) = u.serviceId := by
  simp [lastService]

theorem creation_none_of_once {accepted : List Accepted} {payload : ProvisionRequest}
    (once : ((accepted ++ [Accepted.created payload]).filterMap Accepted.creation).length ≤ 1) :
    creation accepted = none := by
  have none : accepted.filterMap Accepted.creation = [] := by
    simpa [Accepted.creation] using once
  rw [creation, List.findSome?_eq_none_iff]
  exact List.filterMap_eq_nil_iff.mp none

theorem dead_handled {p : Payload} {gone gone' : Prop}
    (dead : newest Payload.lifecycle (p :: waiting) = some .deprovision ∨
      newest Payload.lifecycle (p :: waiting) = none ∧ gone)
    (removes : p.lifecycle = some .deprovision → gone')
    (keeps : p.lifecycle = none → gone → gone') :
    newest Payload.lifecycle waiting = some .deprovision ∨
      newest Payload.lifecycle waiting = none ∧ gone' := by
  rw [newest_cons] at dead
  cases last : newest Payload.lifecycle waiting with
  | some op => simpa [last] using dead
  | none =>
      rw [last, Option.none_or] at dead
      rcases dead with own | ⟨own, gone⟩
      · exact .inr ⟨rfl, removes own⟩
      · exact .inr ⟨rfl, keeps own gone⟩

theorem life_unused (row : (s.view settings id).row = none)
    (tasks : (s.view settings id).tasks = [])
    (accepted : creation (s.view settings id).accepted = none ∧
      patches (s.view settings id).accepted = [])
    (kept : .deprovisioned ∉ (s.view settings id).accepted)
    (step : Local settings id s i v') : v'.Life settings id := by
  obtain ⟨now, payload, rfl⟩ := step.of_unused row tasks
  have created : creation ((s.view settings id).accepted ++ [.created payload]) =
      some payload := by
    simp [creation_concat, accepted, Accepted.creation]
  refine .live created (by simp [kept]) rfl (.newItem _ _ _ _ _) ?_
  simp only [patches_concat, accepted]
  exact .provisioning rfl rfl rfl rfl

theorem life_live {payload : ProvisionRequest}
    (created : creation (s.view settings id).accepted = some payload)
    (kept : .deprovisioned ∉ (s.view settings id).accepted)
    (row : (s.view settings id).row = some item) (complete : item.Complete)
    (progress : Progress settings id (lastService payload (patches (s.view settings id).accepted))
      item (s.view settings id).artifact (s.view settings id).tasks)
    (renders : s.aws.TasksRender) (step : Local settings id s i v') : v'.Life settings id := by
  cases step with
  | created absent => simp [row] at absent
  | matched present read _ _ =>
      refine .live ((creation_concat _ _).trans (by rw [created, Option.some_or]))
        (by simp [kept]) row complete ?_
      simpa [patches_concat, Accepted.patch] using progress
  | @updateQueued payload' _ now item' inst present read =>
      obtain rfl : item = item' := Option.some.inj (row.symm.trans present)
      refine .live ((creation_concat _ _).trans (by rw [created, Option.some_or]))
        (by simp [kept]) rfl (complete.apply _) ?_
      simp only [patches_concat, Accepted.patch, Option.toList_some, lastService_concat]
      exact .updating rfl progress.kept
  | deprovisionQueued present read =>
      refine .ending ?_ (by simp) (.inl ?_)
      · simp [creation_concat, created]
      · simp [newest_concat]
  | @provisioned draws _ payload' _ _ document head tasks rendered =>
      rw [row, Option.getD_some]
      refine .live created kept rfl (complete.apply _) ?_
      rw [tasks] at progress
      refine progress.handled ?_ fun _ _ own => absurd own.symm Payload.update_ne_provision
      rintro payload'' own requested plan parameters
      obtain ⟨-, rfl⟩ := Payload.provision_inj.mp own
      exact ⟨complete.apply _, rfl, rfl, _, _, _, plan, parameters, rfl, requested ▸ rendered⟩
  | provisionFailed tasks fails =>
      have renders := renders.task (tasks ▸ List.mem_cons_self)
      exact absurd (renders id rfl _ rfl _ rfl) fails
  | @updated draws service plan parameters waiting item' inst document tasks present read
      rendered =>
      obtain rfl : item = item' := Option.some.inj (row.symm.trans present)
      refine .live created kept rfl (complete.apply _) ?_
      rw [tasks] at progress
      refine progress.handled (fun _ own => absurd own Payload.update_ne_provision) ?_
      rintro plan' parameters' own
      obtain ⟨-, requested, -, -⟩ := Payload.update_inj.mp own
      exact ⟨complete.apply _, rfl, rfl, _, _, _, rfl, rfl, rfl, requested ▸ rendered⟩
  | updateFailed tasks present fails =>
      have renders := renders.task (tasks ▸ List.mem_cons_self)
      exact absurd (renders id rfl _ rfl _ rfl) fails
  | @updateUnreadable _ _ _ _ _ item' _ tasks present unreadable =>
      obtain rfl : item = item' := Option.some.inj (row.symm.trans present)
      obtain ⟨inst, read⟩ := complete.read id
      simp [read] at unreadable
  | updateMissed tasks absent => simp [row] at absent
  | deprovisioned tasks =>
      exact absurd rfl (progress.kept (.deprovision id) (by simp [tasks]))

theorem life_ending (created : creation (s.view settings id).accepted ≠ none)
    (deleted : .deprovisioned ∈ (s.view settings id).accepted)
    (dead : newest Payload.lifecycle (s.view settings id).tasks = some .deprovision ∨
      newest Payload.lifecycle (s.view settings id).tasks = none ∧
        (s.view settings id).row = none ∧ (s.view settings id).artifact = none)
    (step : Local settings id s i v')
    (once : (v'.accepted.filterMap Accepted.creation).length ≤ 1) : v'.Life settings id := by
  cases step with
  | created absent => exact absurd (creation_none_of_once once) created
  | matched present =>
      exact .ending (by simp [creation_concat, created]) (by simp [deleted]) dead
  | updateQueued present =>
      -- the PATCH found a row, so a deprovision message still waits before its own
      refine .ending (by simp [creation_concat, created]) (by simp [deleted]) (.inl ?_)
      rcases dead with last | ⟨-, row, -⟩
      · simp [newest_concat, last]
      · simp [row] at present
  | deprovisionQueued present =>
      refine .ending (by simp [creation_concat, created]) (by simp) (.inl ?_)
      simp [newest_concat]
  | provisioned head tasks rendered =>
      rw [tasks] at dead
      exact .ending created deleted (dead_handled dead (by simp) (by simp))
  | provisionFailed tasks fails =>
      rw [tasks] at dead
      exact .ending created deleted (dead_handled dead (by simp) (by simp))
  | updated tasks present read rendered =>
      rw [tasks] at dead
      refine .ending created deleted (dead_handled dead (by simp) ?_)
      rintro - ⟨row, -⟩
      simp [row] at present
  | updateFailed tasks present fails =>
      rw [tasks] at dead
      exact .ending created deleted (dead_handled dead (by simp) fun _ gone => gone)
  | updateUnreadable tasks present unreadable =>
      rw [tasks] at dead
      exact .ending created deleted (dead_handled dead (by simp) fun _ gone => gone)
  | updateMissed tasks absent =>
      rw [tasks] at dead
      exact .ending created deleted (dead_handled dead (by simp) fun _ gone => gone)
  | deprovisioned tasks =>
      rw [tasks] at dead
      exact .ending created deleted
        (dead_handled dead (fun _ => ⟨rfl, rfl⟩) fun _ _ => ⟨rfl, rfl⟩)

theorem life_step (life : (s.view settings id).Life settings id) (renders : s.aws.TasksRender)
    (step : Local settings id s i v')
    (once : (v'.accepted.filterMap Accepted.creation).length ≤ 1) : v'.Life settings id := by
  cases life with
  | unused row artifact tasks accepted kept => exact life_unused row tasks accepted kept step
  | live created kept row complete progress =>
      exact life_live created kept row complete progress renders step
  | ending created deleted dead => exact life_ending created deleted dead step once

theorem created_count (history : List Event) (id : String) :
    (history.filterMap Event.created).count id =
      ((history.filterMap (Event.accepted id)).filterMap Accepted.creation).length := by
  induction history with
  | nil => rfl
  | cons e history ih =>
      have one : (if Event.created e = some id then 1 else 0) =
          ((Event.accepted id e).bind Accepted.creation).toList.length := by
        cases e with
        | handled => rfl
        | answered before request response =>
            cases request with
            | provision id' payload incomplete =>
                by_cases same : id' = id <;> by_cases accepted : response.accepted <;>
                  by_cases absent : before.instances id' = none <;>
                  simp_all [Event.created, Event.accepted, Accepted.creation]
            | update id' =>
                by_cases seen : id' = id ∧ response.accepted <;>
                  simp [Event.created, Event.accepted, Accepted.creation, seen]
            | deprovision id' =>
                by_cases seen : id' = id ∧ response.accepted <;>
                  simp [Event.created, Event.accepted, Accepted.creation, seen]
            | _ => rfl
      rw [List.filterMap_filterMap] at ih ⊢
      cases created : Event.created e <;>
        cases seen : (Event.accepted id e).bind Accepted.creation <;>
        simp_all

theorem created_once {b : Broker} (once : b.created.Nodup) (id : String) :
    ((b.accepted id).filterMap Accepted.creation).length ≤ 1 := by
  rw [Broker.accepted, ← created_count]
  exact List.nodup_iff_count_le_one.mp once id

theorem Broker.history_grows (settings : Settings) (b : Broker) (i : Step) :
    b.history <+: (b.step settings i).history := by
  cases i with
  | request => exact List.prefix_append _ _
  | work queue draws =>
      simp only [Broker.step]
      split
      next => exact List.prefix_refl _
      next => exact List.prefix_append _ _

/-- In every run in which the queued messages render and no instance is created twice, every
instance has converged whenever the queue is empty. -/
theorem fresh_ids_converge (settings : Settings) (steps : List Step)
    (renders : Machine.Along (Broker.step settings) (fun s _ => s.aws.TasksRender) .init steps)
    (fresh : (Broker.after settings steps).created.Nodup)
    (drained : (Broker.after settings steps).aws.provisionTasks = []) (id : String) :
    (Broker.after settings steps).Converged settings id := by
  have once := created_once fresh id
  have life : ((Broker.after settings steps).view settings id).Life settings id := by
    refine view_invariant id (I := fun v : View =>
      (v.accepted.filterMap Accepted.creation).length ≤ 1 → v.Life settings id) ?_ ?_ renders once
    · exact fun _ => .unused rfl rfl rfl ⟨rfl, rfl⟩ (by simp)
    · intro s i v' life renders step once
      have before := (step.accepted_prefix.filterMap Accepted.creation).length_le
      exact life_step (life (before.trans once)) renders step once
  have tasks : ((Broker.after settings steps).view settings id).tasks = [] := by
    simp [Broker.view, Aws.tasksAbout, Aws.payloads, drained]
  cases life with
  | unused row artifact _ accepted kept =>
      refine ⟨fun deleted => absurd deleted kept, fun payload created => ?_,
        fun _ => ⟨row, artifact⟩⟩
      cases accepted.1.symm.trans created
  | @live payload item created kept row complete progress =>
      refine ⟨fun deleted => absurd deleted kept, ?_, fun none => by cases none.symm.trans created⟩
      intro payload' created' _
      obtain rfl : payload = payload' := Option.some.inj (created.symm.trans created')
      refine ⟨item, row, ?_⟩
      cases progress with
      | provisioning waiting => simp [tasks] at waiting
      | updating waiting => simp [tasks] at waiting
      | published _ published => exact published
  | ending created deleted dead =>
      have gone : ((Broker.after settings steps).view settings id).row = none ∧
          ((Broker.after settings steps).view settings id).artifact = none := by
        simpa [tasks, newest] using dead
      exact ⟨fun _ => gone, fun _ _ kept => absurd deleted kept, fun none => absurd none created⟩

def twoLives : List Step :=
  let create (id : String) (serial : Nat) : Step :=
    .request (.provision id ⟨"s", "p", ∅, ∅⟩ true) serial "now"
  let patch : Step := .request (.update "a" ⟨"t", some "q", ∅⟩ true) 1 "now"
  let remove : Step := .request (.deprovision "b" "s" "p" true) 1 "now"
  let work : Step := .work .provision ⟨"now", "token"⟩
  [create "a" 0, create "b" 0, patch, work, remove, work, work, work]

theorem two_lives_converge :
    (Broker.after {} twoLives).Converged {} "a" ∧ (Broker.after {} twoLives).Converged {} "b" :=
  have converge := fresh_ids_converge {} twoLives (by decide) (by decide) (by decide)
  ⟨converge "a", converge "b"⟩

end Regnant.Osb
