import Regnant.Proof.Transitions

namespace Regnant.Osb
open Function (update update_of_ne)

/-- An accepted request for an instance. A PUT either creates the row or finds one that matches, and
then the messages of the instance that wait at that time are kept. -/
inductive Accepted where
  | created (payload : ProvisionRequest)
  | matched (payload : ProvisionRequest) (waiting : List Payload)
  | updated (payload : UpdateRequest)
  | deprovisioned
  deriving DecidableEq

def Aws.payloads (w : Aws) : List Payload :=
  w.provisionTasks.filterMap Message.payload

def Aws.tasksAbout (w : Aws) (id : String) : List Payload :=
  w.payloads.filter fun payload => payload.instanceId = some id

def Event.accepted (id : String) : Event → Option Accepted
  | .answered before (.provision id' payload _) response =>
      if id' = id ∧ response.accepted then
        some (if before.instances id = none then .created payload
          else .matched payload (before.tasksAbout id))
      else none
  | .answered _ (.update id' payload _) response =>
      if id' = id ∧ response.accepted then some (.updated payload) else none
  | .answered _ (.deprovision id' _ _ _) response =>
      if id' = id ∧ response.accepted then some .deprovisioned else none
  | _ => none

def Broker.accepted (s : Broker) (id : String) : List Accepted :=
  s.history.filterMap (Event.accepted id)

def Event.created : Event → Option String
  | .answered before (.provision id _ _) response =>
      if before.instances id = none ∧ response.accepted then some id else none
  | _ => none

def Broker.created (s : Broker) : List String :=
  s.history.filterMap Event.created

@[ext] structure View where
  row : Option InstanceItem := none
  artifact : Option Value := none
  tasks : List Payload := []
  accepted : List Accepted := []

def Broker.view (settings : Settings) (s : Broker) (id : String) : View where
  row := s.aws.instances id
  artifact := s.aws.bucket (settings.artifactKey id)
  tasks := s.aws.tasksAbout id
  accepted := s.accepted id

/-! ## The tasks of one instance -/

variable {settings : Settings} {id : String} {w w' : Aws} {receipt : ExecutionName}
  {payload : Payload} {messages : List Message}

theorem tasksAbout_append_self (about : payload.instanceId = some id)
    (tasks : w'.provisionTasks = w.provisionTasks ++ [⟨receipt, .object payload⟩]) :
    w'.tasksAbout id = w.tasksAbout id ++ [payload] := by
  simp [Aws.tasksAbout, Aws.payloads, Message.payload, tasks, about]

theorem tasksAbout_append_other (about : payload.instanceId ≠ some id)
    (tasks : w'.provisionTasks = w.provisionTasks ++ [⟨receipt, .object payload⟩]) :
    w'.tasksAbout id = w.tasksAbout id := by
  simp [Aws.tasksAbout, Aws.payloads, Message.payload, tasks, about]

theorem tasksAbout_cons_self (about : payload.instanceId = some id)
    (tasks : w.provisionTasks = ⟨receipt, .object payload⟩ :: messages) :
    w.tasksAbout id = payload :: Aws.tasksAbout { w with provisionTasks := messages } id := by
  simp [Aws.tasksAbout, Aws.payloads, Message.payload, tasks, about]

theorem tasksAbout_cons_other (about : payload.instanceId ≠ some id)
    (tasks : w.provisionTasks = ⟨receipt, .object payload⟩ :: messages) :
    w.tasksAbout id = Aws.tasksAbout { w with provisionTasks := messages } id := by
  simp [Aws.tasksAbout, Aws.payloads, Message.payload, tasks, about]

def newest {α : Type} (f : Payload → Option α) (tasks : List Payload) : Option α :=
  (tasks.filterMap f).getLast?

section Newest
variable {α : Type} (f : Payload → Option α) (tasks : List Payload) (p : Payload)

theorem newest_concat : newest f (tasks ++ [p]) = (f p).or (newest f tasks) := by
  cases h : f p <;> simp [newest, h]

theorem newest_cons : newest f (p :: tasks) = (newest f tasks).or (f p) := by
  cases h : f p with
  | none => simp [newest, h]
  | some a =>
      rw [newest, newest, List.filterMap_cons_some h, List.getLast?_cons]
      cases (tasks.filterMap f).getLast? <;> rfl

end Newest

def Payload.Renders (p : Payload) : Prop :=
  ∀ id ∈ p.instanceId, ∀ service ∈ p.serviceId, ∀ plan ∈ p.planId,
    Osb.Renders id service plan (p.parameters.getD ∅)
  deriving Decidable

def Aws.TasksRender (w : Aws) : Prop :=
  ∀ p ∈ w.payloads, p.Renders
  deriving Decidable

theorem Aws.TasksRender.task (renders : w.TasksRender) (member : payload ∈ w.tasksAbout id) :
    payload.Renders :=
  renders payload (List.mem_filter.mp member).1

/-! ## The steps of one instance -/

inductive Local (settings : Settings) (id : String) (s : Broker) : Step → View → Prop where
  | created {payload serial now} (absent : (s.view settings id).row = none) :
      Local settings id s (.request (.provision id payload true) serial now)
        { s.view settings id with
          row := some (InstanceStore.newItem now payload.serviceId payload.planId
            payload.parameters payload.context)
          tasks := (s.view settings id).tasks ++ [.provision id payload]
          accepted := (s.view settings id).accepted ++ [.created payload] }
  | matched {payload serial now item inst} (present : (s.view settings id).row = some item)
      (read : instanceFromItem id item = .ok inst) (service : inst.serviceId = payload.serviceId)
      (plan : inst.planId = payload.planId) :
      Local settings id s (.request (.provision id payload true) serial now)
        { s.view settings id with
          accepted := (s.view settings id).accepted ++
            [.matched payload (s.view settings id).tasks] }
  | updateQueued {payload serial now item inst} (present : (s.view settings id).row = some item)
      (read : instanceFromItem id item = .ok inst) :
      Local settings id s (.request (.update id payload true) serial now)
        { s.view settings id with
          row := some ((updateQueued now payload inst).apply item)
          tasks := (s.view settings id).tasks ++ [.update id payload.serviceId
            (planOr payload.planId inst.planId) (inst.parameters.merge payload.parameters)]
          accepted := (s.view settings id).accepted ++ [.updated payload] }
  | deprovisionQueued {serial now item inst} (present : (s.view settings id).row = some item)
      (read : instanceFromItem id item = .ok inst) :
      Local settings id s
        (.request (.deprovision id inst.serviceId inst.planId true) serial now)
        { s.view settings id with
          row := some ((deprovisionQueued now).apply item)
          tasks := (s.view settings id).tasks ++ [.deprovision id]
          accepted := (s.view settings id).accepted ++ [.deprovisioned] }
  | provisioned {draws receipt payload rest waiting document}
      (head : s.aws.provisionTasks = ⟨receipt, .object (.provision id payload)⟩ :: rest)
      (tasks : (s.view settings id).tasks = .provision id payload :: waiting)
      (rendered : renderResources id payload.serviceId payload.planId payload.parameters =
        .ok document) :
      Local settings id s (.work .provision draws)
        { s.view settings id with
          row := some ((provisioned settings draws.now id).apply
            ((s.view settings id).row.getD {}))
          artifact := some document
          tasks := waiting }
  | provisionFailed {draws payload waiting}
      (tasks : (s.view settings id).tasks = .provision id payload :: waiting)
      (fails : ¬Renders id payload.serviceId payload.planId payload.parameters) :
      Local settings id s (.work .provision draws) { s.view settings id with tasks := waiting }
  | updated {draws service plan parameters waiting item inst document}
      (tasks : (s.view settings id).tasks = .update id service plan parameters :: waiting)
      (present : (s.view settings id).row = some item) (read : instanceFromItem id item = .ok inst)
      (rendered : renderResources id service plan parameters = .ok document) :
      Local settings id s (.work .provision draws)
        { s.view settings id with
          row := some ((updated settings draws.now id plan parameters).apply item)
          artifact := some document
          tasks := waiting }
  | updateFailed {draws service plan parameters waiting item}
      (tasks : (s.view settings id).tasks = .update id service plan parameters :: waiting)
      (present : (s.view settings id).row = some item)
      (fails : ¬Renders id service plan parameters) :
      Local settings id s (.work .provision draws) { s.view settings id with tasks := waiting }
  | updateUnreadable {draws service plan parameters waiting item e}
      (tasks : (s.view settings id).tasks = .update id service plan parameters :: waiting)
      (present : (s.view settings id).row = some item)
      (unreadable : instanceFromItem id item = .error e) :
      Local settings id s (.work .provision draws) { s.view settings id with tasks := waiting }
  | updateMissed {draws service plan parameters waiting}
      (tasks : (s.view settings id).tasks = .update id service plan parameters :: waiting)
      (absent : (s.view settings id).row = none) :
      Local settings id s (.work .provision draws) { s.view settings id with tasks := waiting }
  | deprovisioned {draws waiting}
      (tasks : (s.view settings id).tasks = .deprovision id :: waiting) :
      Local settings id s (.work .provision draws)
        { s.view settings id with row := none, artifact := none, tasks := waiting }

theorem accepted_concat (w w' : Aws) (history : List Event) (e : Event) :
    Broker.accepted ⟨w', history ++ [e]⟩ id =
      Broker.accepted ⟨w, history⟩ id ++ (e.accepted id).toList := by
  cases h : e.accepted id <;> simp [Broker.accepted, h]

theorem accepted_concat_none {s : Broker} {e : Event} (unseen : e.accepted id = none) :
    Broker.accepted ⟨w', s.history ++ [e]⟩ id = s.accepted id := by
  rw [accepted_concat s.aws, unseen, Option.toList_none, List.append_nil]

theorem accepted_concat_some {s : Broker} {e : Event} {a : Accepted}
    (seen : e.accepted id = some a) :
    Broker.accepted ⟨w', s.history ++ [e]⟩ id = s.accepted id ++ [a] := by
  rw [accepted_concat s.aws, seen, Option.toList_some]

theorem view_same {s : Broker} {e : Event} (same : s.aws.SameInstances w')
    (unseen : e.accepted id = none) :
    Broker.view settings ⟨w', s.history ++ [e]⟩ id = s.view settings id := by
  ext1
  · exact congrFun same.instances id
  · exact congrFun same.bucket _
  · simp only [Broker.view, Aws.tasksAbout, Aws.payloads, same.provisionTasks]
  · exact accepted_concat_none unseen

theorem answered_other {self : ExecutionName} {s : Broker} {request : Request} {now : String}
    {response : Response} (answered : Answered self now s.aws request response w')
    (unseen : request.instanceId = id → ¬(response.accepted ∧ request.MutatesInstance)) :
    Broker.view settings ⟨w', s.history ++ [.answered s.aws request response]⟩ id =
      s.view settings id := by
  cases answered with
  | @created id' payload valid absent =>
      have other : id' ≠ id := fun same => unseen same ⟨by decide, trivial⟩
      ext1
      · exact update_of_ne other.symm _ _
      · rfl
      · exact tasksAbout_append_other (by simpa [Payload.provision] using other) rfl
      · exact accepted_concat_none (by simp [Event.accepted, other])
  | @matched id' payload =>
      have other : id' ≠ id := fun same => unseen same ⟨by decide, trivial⟩
      exact View.ext rfl rfl rfl (accepted_concat_none (by simp [Event.accepted, other]))
  | @updateQueued id' payload item inst present read =>
      have other : id' ≠ id := fun same => unseen same ⟨by decide, trivial⟩
      ext1
      · exact update_of_ne other.symm _ _
      · rfl
      · exact tasksAbout_append_other (by simpa [Payload.update] using other) rfl
      · exact accepted_concat_none (by simp [Event.accepted, other])
  | @deprovisionQueued id' item inst present read =>
      have other : id' ≠ id := fun same => unseen same ⟨by decide, trivial⟩
      ext1
      · exact update_of_ne other.symm _ _
      · rfl
      · exact tasksAbout_append_other (by simpa [Payload.deprovision] using other) rfl
      · exact accepted_concat_none (by simp [Event.accepted, other])
  | other quiet same =>
      refine view_same same ?_
      cases request <;> simp_all [Event.accepted, Request.MutatesInstance]

theorem answered_local {self : ExecutionName} {s : Broker} {request : Request} {serial : Nat}
    {now : String} {response : Response} {w' : Aws}
    (answered : Answered self now s.aws request response w') :
    let s' : Broker := ⟨w', s.history ++ [.answered s.aws request response]⟩
    s'.view settings id = s.view settings id ∨
      Local settings id s (.request request serial now) (s'.view settings id) := by
  intro s'
  by_cases seen : request.instanceId = id ∧ response.accepted ∧ request.MutatesInstance
  · cases answered with
    | @created id' payload valid absent =>
        obtain rfl : id' = id := seen.1
        right
        convert Local.created absent using 1
        ext1
        · simp [s', Broker.view, Aws.created]
        · rfl
        · exact tasksAbout_append_self rfl rfl
        · exact accepted_concat_some (by simp [Event.accepted, Response.accepted, absent])
    | @matched id' payload item inst present read service plan =>
        obtain rfl : id' = id := seen.1
        right
        convert Local.matched present read service plan using 1
        refine View.ext rfl rfl rfl (accepted_concat_some ?_)
        simp [Event.accepted, Response.accepted, present, Broker.view]
    | @updateQueued id' payload item inst present read =>
        obtain rfl : id' = id := seen.1
        right
        convert Local.updateQueued present read using 1
        ext1
        · simp [s', Broker.view, Aws.updateQueued]
        · rfl
        · exact tasksAbout_append_self rfl rfl
        · exact accepted_concat_some (by simp [Event.accepted, Response.accepted])
    | @deprovisionQueued id' item inst present read =>
        obtain rfl : id' = id := seen.1
        right
        convert Local.deprovisionQueued present read using 1
        ext1
        · simp [s', Broker.view, Aws.deprovisionQueued]
        · rfl
        · exact tasksAbout_append_self rfl rfl
        · exact accepted_concat_some (by simp [Event.accepted, Response.accepted])
    | other quiet same => exact absurd seen.2 quiet
  · exact .inl (answered_other answered fun own changes => seen ⟨own, changes⟩)

theorem handled_other {now : String} (about : payload.instanceId ≠ some id)
    (handled : Handled settings now receipt w payload w') :
    w'.instances id = w.instances id ∧
      w'.bucket (settings.artifactKey id) = w.bucket (settings.artifactKey id) := by
  have other {id' : String} (member : payload.instanceId = some id') : id ≠ id' := by
    rintro rfl
    exact about member
  have key {id' : String} (member : payload.instanceId = some id') :
      settings.artifactKey id ≠ settings.artifactKey id' :=
    settings.artifactKey_injective.ne (other member)
  cases handled with
  | provisioned => exact ⟨update_of_ne (other rfl) _ _, update_of_ne (key rfl) _ _⟩
  | updated => exact ⟨update_of_ne (other rfl) _ _, update_of_ne (key rfl) _ _⟩
  | deprovisioned => exact ⟨update_of_ne (other rfl) _ _, update_of_ne (key rfl) _ _⟩
  | _ => exact ⟨rfl, rfl⟩

theorem Handled.provisionTasks {now : String}
    (handled : Handled settings now receipt w payload w') :
    w'.provisionTasks = w.provisionTasks := by
  cases handled <;> rfl

theorem handled_local {s : Broker} {draws : Draws} {w' : Aws}
    (head : s.aws.provisionTasks = ⟨receipt, .object payload⟩ :: messages)
    (handled : Handled settings draws.now receipt { s.aws with provisionTasks := messages } payload
      w') :
    let s' : Broker :=
      ⟨w', s.history ++ [.handled s.aws .provision ⟨receipt, .object payload⟩]⟩
    s'.view settings id = s.view settings id ∨
      Local settings id s (.work .provision draws) (s'.view settings id) := by
  intro s'
  have accepted : s'.accepted id = s.accepted id := accepted_concat_none rfl
  have waiting :
      w'.tasksAbout id = Aws.tasksAbout { s.aws with provisionTasks := messages } id := by
    simp only [Aws.tasksAbout, Aws.payloads, handled.provisionTasks]
  by_cases about : payload.instanceId = some id
  · right
    have tasks := tasksAbout_cons_self about head
    rw [← waiting] at tasks
    cases handled with
    | @provisioned id' payload document rendered =>
        obtain rfl : id' = id := by simpa [Payload.provision] using about
        convert Local.provisioned head tasks rendered using 1
        ext1
        · simp [s', Broker.view, Aws.acknowledged, Aws.published]
        · simp [s', Broker.view, Aws.acknowledged, Aws.published]
        · rfl
        · exact accepted
    | @provisionFailed id' payload fails =>
        obtain rfl : id' = id := by simpa [Payload.provision] using about
        convert Local.provisionFailed tasks fails using 1
        exact View.ext rfl rfl rfl accepted
    | @updated id' service plan parameters item inst document present read rendered =>
        obtain rfl : id' = id := by simpa [Payload.update] using about
        convert Local.updated tasks present read rendered using 1
        ext1
        · simp [s', Broker.view, Aws.acknowledged, Aws.published,
            show s.aws.instances id' = _ from present]
        · simp [s', Broker.view, Aws.acknowledged, Aws.published]
        · rfl
        · exact accepted
    | @updateFailed id' service plan parameters item present fails =>
        obtain rfl : id' = id := by simpa [Payload.update] using about
        convert Local.updateFailed tasks present fails using 1
        exact View.ext rfl rfl rfl accepted
    | @updateUnreadable id' service plan parameters item e present unreadable =>
        obtain rfl : id' = id := by simpa [Payload.update] using about
        convert Local.updateUnreadable tasks present unreadable using 1
        exact View.ext rfl rfl rfl accepted
    | @updateMissed id' service plan parameters absent =>
        obtain rfl : id' = id := by simpa [Payload.update] using about
        convert Local.updateMissed tasks absent using 1
        exact View.ext rfl rfl rfl accepted
    | @deprovisioned id' =>
        obtain rfl : id' = id := by simpa [Payload.deprovision] using about
        convert Local.deprovisioned tasks using 1
        ext1
        · simp [s', Broker.view, Aws.acknowledged, Aws.removed]
        · simp [s', Broker.view, Aws.acknowledged, Aws.removed]
        · rfl
        · exact accepted
  · left
    obtain ⟨row, artifact⟩ := handled_other about handled
    exact View.ext row artifact (waiting.trans (tasksAbout_cons_other about head).symm) accepted

theorem transition_local (settings : Settings) (id : String) {s s' : Broker} {i : Step}
    (transition : Transition settings s i s') :
    s'.view settings id = s.view settings id ∨ Local settings id s i (s'.view settings id) := by
  cases transition with
  | answered answered => exact answered_local answered
  | handled head handled => exact handled_local head handled
  | bindingHandled same => exact .inl (view_same same rfl)
  | idle => exact .inl rfl

theorem Local.accepted_prefix {s : Broker} {i : Step} {v' : View}
    (step : Local settings id s i v') : (s.view settings id).accepted <+: v'.accepted := by
  cases step with
  | created => exact List.prefix_append _ _
  | matched => exact List.prefix_append _ _
  | updateQueued => exact List.prefix_append _ _
  | deprovisionQueued => exact List.prefix_append _ _
  | _ => exact List.prefix_refl _

theorem Local.of_unused {s : Broker} {i : Step} {v' : View} (step : Local settings id s i v')
    (row : (s.view settings id).row = none) (tasks : (s.view settings id).tasks = []) :
    ∃ now payload, v' =
      { s.view settings id with
        row := some (InstanceStore.newItem now payload.serviceId payload.planId
          payload.parameters payload.context)
        tasks := [.provision id payload]
        accepted := (s.view settings id).accepted ++ [.created payload] } := by
  cases step with
  | @created payload _ now => exact ⟨now, payload, by rw [tasks, List.nil_append]⟩
  | matched present => simp [row] at present
  | updateQueued present => simp [row] at present
  | deprovisionQueued present => simp [row] at present
  | provisioned head waiting => simp [tasks] at waiting
  | provisionFailed waiting => simp [tasks] at waiting
  | updated waiting => simp [tasks] at waiting
  | updateFailed waiting => simp [tasks] at waiting
  | updateUnreadable waiting => simp [tasks] at waiting
  | updateMissed waiting => simp [tasks] at waiting
  | deprovisioned waiting => simp [tasks] at waiting

theorem view_invariant (id : String) {ok : Broker → Step → Prop} {I : View → Prop} (start : I {})
    (keeps : ∀ s i v', I (s.view settings id) → ok s i → Local settings id s i v' → I v')
    {steps : List Step} (allowed : Machine.Along (Broker.step settings) ok .init steps) :
    I ((Broker.after settings steps).view settings id) := by
  refine after_invariant (I := fun s => I (s.view settings id)) start ?_ allowed
  intro s i s' holds now transition
  rcases transition_local settings id transition with same | seen
  · rwa [same]
  · exact keeps s i _ holds now seen

end Regnant.Osb
