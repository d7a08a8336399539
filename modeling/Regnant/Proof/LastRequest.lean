import Regnant.Proof.View

/-!
# The last accepted request

A DELETE and the PUT that creates an instance queue work that decides what is left of it. A PUT that
finds a row queues none, also when a deprovision message waits that will remove that row.
-/

namespace Regnant.Osb

def Accepted.lifecycle : Accepted → Option Accepted
  | .updated _ => none
  | a => some a

def lastRequest (accepted : List Accepted) : Option Accepted :=
  (accepted.filterMap Accepted.lifecycle).getLast?

def Payload.lifecycle (p : Payload) : Option Op :=
  if p.op = some .provision ∨ p.op = some .deprovision then p.op else none

@[simp] theorem lifecycle_provision (id : String) (payload : ProvisionRequest) :
    (Payload.provision id payload).lifecycle = some .provision := rfl

@[simp] theorem lifecycle_update (id service plan : String) (parameters : Dict) :
    (Payload.update id service plan parameters).lifecycle = none := rfl

@[simp] theorem lifecycle_deprovision (id : String) :
    (Payload.deprovision id).lifecycle = some .deprovision := rfl

/-- The instance has an available row and an artifact after a PUT, and neither after a DELETE. -/
def Broker.LastWins (settings : Settings) (s : Broker) (id : String) : Prop :=
  match lastRequest (s.accepted id) with
  | none => True
  | some .deprovisioned => s.aws.instances id = none ∧ s.aws.bucket (settings.artifactKey id) = none
  | some _ => (∃ item ∈ s.aws.instances id, item.state = some .available) ∧
      (s.aws.bucket (settings.artifactKey id)).isSome

/-- The request leads to a row. A PUT that finds one makes none, and the newest waiting message
decides. -/
def Accepted.Keeps : Accepted → Prop
  | .matched _ waiting => newest Payload.lifecycle waiting ≠ some .deprovision
  | .deprovisioned => False
  | _ => True

def Accepted.Lost : Accepted → Prop
  | .matched _ waiting => newest Payload.lifecycle waiting = some .deprovision
  | _ => False

instance : DecidablePred Accepted.Lost
  | .matched _ _ => inferInstanceAs (Decidable (_ = _))
  | .created _ => inferInstanceAs (Decidable False)
  | .updated _ => inferInstanceAs (Decidable False)
  | .deprovisioned => inferInstanceAs (Decidable False)

theorem Accepted.lost_iff (a : Accepted) : a.Lost ↔ ¬a.Keeps ∧ a ≠ .deprovisioned := by
  cases a <;> simp [Lost, Keeps]

theorem lastRequest_concat (accepted : List Accepted) (a : Accepted) :
    lastRequest (accepted ++ [a]) = a.lifecycle.or (lastRequest accepted) := by
  cases h : a.lifecycle <;> simp [lastRequest, h]

def View.Remains (v : View) : Prop :=
  match newest Payload.lifecycle v.tasks with
  | some op => op = .provision
  | none => v.row.isSome

def View.Decided (v : View) : Prop :=
  v.Remains ↔ ∃ a ∈ lastRequest v.accepted, a.Keeps

/-- When no message waits that makes or removes the row, the instance is gone or published, and it
is available unless an update waits. -/
def View.Settled (id : String) (v : View) : Prop :=
  newest Payload.lifecycle v.tasks = none →
    v.row = none ∧ v.artifact = none ∨
      ∃ item, v.row = some item ∧ v.artifact.isSome ∧ (item.state = some .available ∨
        (∃ inst, instanceFromItem id item = .ok inst) ∧ ∃ p ∈ v.tasks, p.op = some .update)

theorem lifecycle_op {tasks : List Payload} {op : Op}
    (h : newest Payload.lifecycle tasks = some op) : op = .provision ∨ op = .deprovision := by
  obtain ⟨p, -, lifecycle⟩ := List.mem_filterMap.mp (List.mem_of_getLast? h)
  unfold Payload.lifecycle at lifecycle
  split at lifecycle
  next kind => simpa [lifecycle] using kind
  next => cases lifecycle

variable {settings : Settings} {id : String} {s : Broker} {i : Step} {v v' : View}

theorem remains_handled {p : Payload} {waiting : List Payload} {row : Option InstanceItem}
    {artifact : Option Value} (tasks : v.tasks = p :: waiting)
    (makes : ∀ op ∈ p.lifecycle, row.isSome ↔ op = .provision)
    (keeps : p.lifecycle = none → row.isSome = v.row.isSome) :
    View.Remains { v with row, artifact, tasks := waiting } ↔ v.Remains := by
  unfold View.Remains
  rw [tasks, newest_cons]
  cases h : newest Payload.lifecycle waiting with
  | some op => rfl
  | none =>
      cases lifecycle : p.lifecycle with
      | none => simp [keeps lifecycle]
      | some op => exact makes op lifecycle

theorem decided_step (decided : (s.view settings id).Decided)
    (renders : s.aws.TasksRender) (step : Local settings id s i v') : v'.Decided := by
  unfold View.Decided at decided ⊢
  cases step with
  | created absent =>
      refine iff_of_true ?_ (by simp [lastRequest_concat, Accepted.lifecycle, Accepted.Keeps])
      simp [View.Remains, newest_concat]
  | matched present read service plan =>
      -- nothing is queued for this PUT, so the messages that wait decide about its row
      rw [lastRequest_concat]
      simp only [Accepted.lifecycle, Option.some_or, Option.mem_some_iff, exists_eq_left',
        Accepted.Keeps, View.Remains, present]
      cases h : newest Payload.lifecycle (s.view settings id).tasks with
      | none => simp
      | some op => rcases lifecycle_op h with rfl | rfl <;> simp
  | updateQueued present read =>
      rw [lastRequest_concat]
      simp only [Accepted.lifecycle, Option.none_or]
      rw [← decided, View.Remains, View.Remains, newest_concat, present]
      rfl
  | deprovisionQueued present read =>
      rw [lastRequest_concat]
      refine iff_of_false ?_ (by simp [Accepted.lifecycle, Accepted.Keeps])
      simp [View.Remains, newest_concat]
  | provisioned head tasks rendered =>
      rw [← decided]
      exact remains_handled tasks (by simp) (by simp)
  | provisionFailed tasks fails =>
      have renders := renders.task (tasks ▸ List.mem_cons_self)
      exact absurd (renders id rfl _ rfl _ rfl) fails
  | updated tasks present read rendered =>
      rw [← decided]
      exact remains_handled tasks (by simp) (by simp [present])
  | updateFailed tasks present fails =>
      rw [← decided]
      exact remains_handled tasks (by simp) (fun _ => rfl)
  | updateUnreadable tasks present unreadable =>
      rw [← decided]
      exact remains_handled tasks (by simp) (fun _ => rfl)
  | updateMissed tasks absent =>
      rw [← decided]
      exact remains_handled tasks (by simp) (fun _ => rfl)
  | deprovisioned tasks =>
      rw [← decided]
      exact remains_handled tasks (by simp) (by simp)

theorem settled_step (settled : (s.view settings id).Settled id)
    (renders : s.aws.TasksRender) (step : Local settings id s i v') : v'.Settled id := by
  intro none
  cases step with
  | created absent => simp [newest_concat] at none
  | matched => exact settled none
  | @updateQueued payload _ now item inst present read =>
      rw [newest_concat, lifecycle_update, Option.none_or] at none
      refine .inr ⟨_, rfl, ?_, .inr ⟨⟨_, instanceFromItem_apply read _⟩, _, List.mem_concat_self,
        rfl⟩⟩
      rcases settled none with ⟨row, -⟩ | ⟨item', -, artifact, -⟩
      · simp [row] at present
      · exact artifact
  | deprovisionQueued present read =>
      simp [newest_concat] at none
  | provisioned head tasks rendered => exact .inr ⟨_, rfl, rfl, .inl rfl⟩
  | provisionFailed tasks fails =>
      have renders := renders.task (tasks ▸ List.mem_cons_self)
      exact absurd (renders id rfl _ rfl _ rfl) fails
  | updated tasks present read rendered => exact .inr ⟨_, rfl, rfl, .inl rfl⟩
  | updateFailed tasks present fails =>
      have renders := renders.task (tasks ▸ List.mem_cons_self)
      exact absurd (renders id rfl _ rfl _ rfl) fails
  | @updateUnreadable _ _ _ _ _ item _ tasks present unreadable =>
      -- a row that no message is to make or remove is available or reads back
      rw [View.Settled, tasks, newest_cons, none] at settled
      rcases settled rfl with ⟨row, -⟩ | ⟨item', row, artifact, state⟩
      · simp [row] at present
      · obtain rfl : item = item' := Option.some.inj (present.symm.trans row)
        refine .inr ⟨item, row, artifact, .inl ?_⟩
        simpa [unreadable] using state
  | updateMissed tasks absent =>
      rw [View.Settled, tasks, newest_cons, none] at settled
      rcases settled rfl with gone | ⟨item, row, -⟩
      · exact .inl gone
      · simp [row] at absent
  | deprovisioned tasks => exact .inl ⟨rfl, rfl⟩

theorem View.Settled.drained (settled : v.Settled id) (tasks : v.tasks = []) :
    v.row = none ∧ v.artifact = none ∨
      (∃ item ∈ v.row, item.state = some .available) ∧ v.row.isSome ∧ v.artifact.isSome := by
  rcases settled (by simp [tasks, newest]) with gone | ⟨item, row, artifact, state⟩
  · exact .inl gone
  · refine .inr ⟨⟨item, row, ?_⟩, by simp [row], artifact⟩
    simpa [tasks] using state

/-- In every run in which the queued messages render: when the queue is empty, the last accepted PUT
or DELETE of an instance wins exactly when it is not a PUT that found a row being removed. -/
theorem last_request_wins_iff (settings : Settings) (steps : List Step) (id : String)
    (renders : Machine.Along (Broker.step settings) (fun s _ => s.aws.TasksRender) .init steps)
    (drained : (Broker.after settings steps).aws.provisionTasks = []) :
    (Broker.after settings steps).LastWins settings id ↔
      ¬∃ a ∈ lastRequest ((Broker.after settings steps).accepted id), a.Lost := by
  have both : ((Broker.after settings steps).view settings id).Decided ∧
      ((Broker.after settings steps).view settings id).Settled id := by
    refine view_invariant id (I := fun v => v.Decided ∧ v.Settled id) ⟨?_, ?_⟩ ?_ renders
    · simp [View.Decided, View.Remains, newest, lastRequest]
    · exact fun _ => .inl ⟨rfl, rfl⟩
    · rintro s i v' ⟨decided, settled⟩ renders step
      exact ⟨decided_step decided renders step, settled_step settled renders step⟩
  generalize Broker.after settings steps = s at both drained ⊢
  have tasks : (s.view settings id).tasks = [] := by
    simp [Broker.view, Aws.tasksAbout, Aws.payloads, drained]
  have decided : (s.view settings id).row.isSome ↔ ∃ a ∈ lastRequest (s.accepted id), a.Keeps := by
    have decided := both.1
    rw [View.Decided, View.Remains, tasks] at decided
    exact decided
  have settled := both.2.drained tasks
  unfold Broker.LastWins
  cases last : lastRequest (s.accepted id) with
  | none => simp
  | some a =>
      simp only [last, Option.mem_some_iff, exists_eq_left'] at decided ⊢
      rw [a.lost_iff]
      obtain ⟨gone, noArtifact⟩ | ⟨available, row, artifact⟩ := settled
      · have lost : ¬a.Keeps := fun keeps => by simpa [gone] using decided.mpr keeps
        cases a with
        | deprovisioned => exact iff_of_true ⟨gone, noArtifact⟩ (by simp)
        | _ =>
            refine iff_of_false ?_ (by simp [lost])
            rintro ⟨⟨item, present, -⟩, -⟩
            cases gone.symm.trans present
      · have keeps := decided.mp row
        cases a with
        | deprovisioned => exact keeps.elim
        | _ => exact iff_of_true ⟨available, artifact⟩ (by simp [keeps])

def secondLife : List Step :=
  let create (serial : Nat) : Step := .request (.provision "a" ⟨"s", "p", ∅, ∅⟩ true) serial "now"
  let remove : Step := .request (.deprovision "a" "s" "p" true) 1 "now"
  let patch : Step := .request (.update "a" ⟨"s", some "q", ∅⟩ true) 3 "now"
  let work : Step := .work .provision ⟨"now", "token"⟩
  [create 0, work, remove, work, create 2, patch, work, work]

theorem second_life_wins : (Broker.after {} secondLife).LastWins {} "a" :=
  (last_request_wins_iff {} secondLife "a" (by decide) (by decide)).mpr (by decide)

def lostPut : List Step :=
  let create (serial : Nat) : Step := .request (.provision "a" ⟨"s", "p", ∅, ∅⟩ true) serial "now"
  let remove : Step := .request (.deprovision "a" "s" "p" true) 1 "now"
  let work : Step := .work .provision ⟨"now", "token"⟩
  [create 0, remove, create 2, work, work]

theorem last_request_not_always_wins :
    ¬∀ settings steps id,
      Machine.Along (Broker.step settings) (fun s _ => s.aws.TasksRender) .init steps →
      (Broker.after settings steps).aws.provisionTasks = [] →
      (Broker.after settings steps).LastWins settings id := by
  intro always
  have wins : (Broker.after {} lostPut).LastWins {} "a" :=
    always {} lostPut "a" (by decide) (by decide)
  have last : lastRequest ((Broker.after {} lostPut).accepted "a") =
      some (.matched ⟨"s", "p", ∅, ∅⟩ [.provision "a" ⟨"s", "p", ∅, ∅⟩, .deprovision "a"]) := by
    decide
  have row : (Broker.after {} lostPut).aws.instances "a" = none := by decide
  simp [Broker.LastWins, last, row] at wins

end Regnant.Osb
