import Regnant.Proof.Faults

/-!
# Messages delivered again

No handler looks at a message id or at the state of the row, so a message that is delivered again is
handled like a new one. This is harmless as long as nothing else has happened to its instance.
-/

namespace Regnant.Osb
open Function (update_self update_of_ne)

def InstanceItem.timeless (item : InstanceItem) : InstanceItem :=
  { item with updatedAt := none }

/-- Every row, up to the time of its last change, and every artifact is as before. -/
def Aws.Unchanged (settings : Settings) (w w' : Aws) : Prop :=
  ∀ id, (w'.instances id).map InstanceItem.timeless = (w.instances id).map InstanceItem.timeless ∧
    w'.bucket (settings.artifactKey id) = w.bucket (settings.artifactKey id)

/-- A PUT, PATCH or DELETE of the instance that was not rejected, or a handling of one of its
messages. -/
def Finished.Touches (id : String) : Finished → Prop
  | .answered request response =>
      request.instanceId = id ∧ request.MutatesInstance ∧ ¬response.isOsbError
  | .handled .provision message _ => message.about = some id
  | .handled .binding _ _ => False

/-- The message was handled to its end, and nothing but its own handlings has touched its instance
since. -/
def Deliveries.Quiet (s : Deliveries) (m : Message) : Prop :=
  ∃ earlier later, s.history = earlier ++ .handled .provision m none :: later ∧
    ∀ e ∈ later, (∃ fault, e = .handled .provision m fault) ∨ ∀ id ∈ m.about, ¬e.Touches id

structure InstanceItem.Shows (item : InstanceItem) (u : InstanceUpdate) : Prop where
  state : item.state = some u.state
  description : ∀ x ∈ u.description, item.lastOperationDescription = some x
  operation : ∀ x ∈ u.operation, item.lastOperation = some x
  artifactKey : ∀ x ∈ u.artifactKey, item.artifactKey = some x
  planId : ∀ x ∈ u.planId, item.planId = some x
  parameters : ∀ x ∈ u.parameters, item.parameters = some x
  dashboardUrl : ∀ x ∈ u.dashboardUrl, item.dashboardUrl = some x

def Aws.Shows (settings : Settings) (w : Aws) (id : String) (document : Value)
    (u : InstanceUpdate) : Prop :=
  (∃ item ∈ w.instances id, item.Shows u) ∧ w.bucket (settings.artifactKey id) = some document

/-- What the handling of the message writes is what the row and the artifact show. -/
structure Aws.Spent (settings : Settings) (w : Aws) (p : Payload) : Prop where
  provision : ∀ id request document, p = .provision id request →
    renderResources id request.serviceId request.planId request.parameters = .ok document →
    w.Shows settings id document (provisioned settings "" id)
  update : ∀ id service plan parameters item inst document,
    p = .update id service plan parameters → w.instances id = some item →
    instanceFromItem id item = .ok inst →
    renderResources id service plan parameters = .ok document →
    w.Shows settings id document (updated settings "" id plan parameters)
  deprovision : ∀ id, p = .deprovision id →
    w.instances id = none ∧ w.bucket (settings.artifactKey id) = none

variable {settings : Settings} {receipt : ExecutionName} {now id : String} {w w' : Aws}
  {payload : Payload} {draws : Draws} {fault : Option Fault}

theorem Aws.Unchanged.refl (settings : Settings) (w : Aws) : w.Unchanged settings w :=
  fun _ => ⟨rfl, rfl⟩

theorem InstanceItem.Shows.restamp {item : InstanceItem} {u : InstanceUpdate}
    (shows : item.Shows u) (now : String) : item.Shows { u with updatedAt := now } :=
  ⟨shows.state, shows.description, shows.operation, shows.artifactKey, shows.planId,
    shows.parameters, shows.dashboardUrl⟩

theorem shows_apply (item : InstanceItem) (u : InstanceUpdate) : (u.apply item).Shows u := by
  obtain ⟨state, now, description, operation, key, plan, parameters, url⟩ := u
  constructor <;> simp +contextual [InstanceUpdate.apply]

theorem InstanceItem.Shows.unchanged {item : InstanceItem} {u : InstanceUpdate}
    (shows : item.Shows u) : (u.apply item).timeless = item.timeless := by
  have kept {α : Type} {a b : Option α} (held : ∀ x ∈ a, b = some x) : a.or b = b := by
    cases a with
    | none => rfl
    | some x => exact (held x rfl).symm
  simp only [InstanceUpdate.apply, InstanceItem.timeless, InstanceItem.mk.injEq, true_and]
  exact ⟨kept shows.planId, shows.state.symm, kept shows.parameters, kept shows.artifactKey,
    kept shows.operation, kept shows.description, kept shows.dashboardUrl⟩

theorem unchanged_of_own (id : String)
    (rows : ∀ id', id' ≠ id → w'.instances id' = w.instances id')
    (artifacts : ∀ key, key ≠ settings.artifactKey id → w'.bucket key = w.bucket key)
    (row : (w'.instances id).map InstanceItem.timeless =
      (w.instances id).map InstanceItem.timeless)
    (artifact : w'.bucket (settings.artifactKey id) = w.bucket (settings.artifactKey id)) :
    w.Unchanged settings w' := by
  intro id'
  by_cases same : id' = id
  · rw [same]
    exact ⟨row, artifact⟩
  · rw [rows id' same, artifacts _ (settings.artifactKey_injective.ne same)]
    exact ⟨rfl, rfl⟩

theorem Aws.Shows.unchanged {document : Value} {u : InstanceUpdate}
    (shows : w.Shows settings id document u) (now : String) :
    w.Unchanged settings ((w.published settings id document
      { u with updatedAt := now }).acknowledged .provision receipt) := by
  obtain ⟨⟨item, row, shows⟩, artifact⟩ := shows
  refine unchanged_of_own id (fun _ other => update_of_ne other _ _)
    (fun _ other => update_of_ne other _ _) ?_ ?_
  · simp [Aws.acknowledged, Aws.published, Option.mem_def.mp row, (shows.restamp now).unchanged]
  · simp [Aws.acknowledged, Aws.published, artifact]

theorem Aws.Spent.unchanged (spent : w.Spent settings payload)
    (handled : Handled settings now receipt w payload w') : w.Unchanged settings w' := by
  cases handled with
  | provisioned rendered => exact (spent.provision _ _ _ rfl rendered).unchanged now
  | updated present read rendered =>
      exact (spent.update _ _ _ _ _ _ _ rfl present read rendered).unchanged now
  | deprovisioned =>
      obtain ⟨row, artifact⟩ := spent.deprovision _ rfl
      refine unchanged_of_own _ (fun _ other => update_of_ne other _ _)
        (fun _ other => update_of_ne other _ _) ?_ ?_
      · simp [Aws.acknowledged, Aws.removed, row]
      · simp [Aws.acknowledged, Aws.removed, artifact]
  | provisionFailed => exact .refl settings w
  | updateFailed => exact .refl settings w
  | updateUnreadable => exact .refl settings w
  | updateMissed => exact .refl settings w

theorem shows_published {document : Value} {u : InstanceUpdate} (now : String) :
    ((w.published settings id document u).acknowledged .provision receipt).Shows settings id
      document { u with updatedAt := now } :=
  ⟨⟨_, update_self _ _ _, (shows_apply _ u).restamp now⟩, update_self _ _ _⟩

theorem spent_provision {request : ProvisionRequest}
    (shows : ∀ document,
      renderResources id request.serviceId request.planId request.parameters = .ok document →
      w.Shows settings id document (provisioned settings "" id)) :
    w.Spent settings (.provision id request) := by
  refine ⟨fun id' request' document same => ?_,
    fun _ _ _ _ _ _ _ same => absurd same.symm Payload.update_ne_provision,
    fun _ same => absurd same.symm Payload.deprovision_ne_provision⟩
  obtain ⟨rfl, rfl⟩ := Payload.provision_inj.mp same
  exact shows document

theorem spent_update {service plan : String} {parameters : Dict}
    (shows : ∀ item inst document, w.instances id = some item →
      instanceFromItem id item = .ok inst →
      renderResources id service plan parameters = .ok document →
      w.Shows settings id document (updated settings "" id plan parameters)) :
    w.Spent settings (.update id service plan parameters) := by
  refine ⟨fun _ _ _ same => absurd same Payload.update_ne_provision,
    fun id' service' plan' parameters' item inst document same => ?_,
    fun _ same => absurd same Payload.update_ne_deprovision⟩
  obtain ⟨rfl, rfl, rfl, rfl⟩ := Payload.update_inj.mp same
  exact shows item inst document

theorem spent_deprovision
    (gone : w.instances id = none ∧ w.bucket (settings.artifactKey id) = none) :
    w.Spent settings (.deprovision id) := by
  refine ⟨fun _ _ _ same => absurd same Payload.deprovision_ne_provision,
    fun _ _ _ _ _ _ _ same => absurd same.symm Payload.update_ne_deprovision, fun id' same => ?_⟩
  obtain rfl := Payload.deprovision_inj.mp same
  exact gone

theorem not_renders_of_fails {service plan : String} {parameters : Dict} {document : Value}
    (fails : ¬Renders id service plan parameters) :
    renderResources id service plan parameters ≠ .ok document :=
  fun rendered => fails (renders_iff.mpr ⟨document, rendered⟩)

theorem Handled.spent (handled : Handled settings now receipt w payload w') :
    w'.Spent settings payload := by
  cases handled with
  | provisioned rendered =>
      refine spent_provision fun document rendered' => ?_
      obtain rfl := Except.ok.inj (rendered.symm.trans rendered')
      exact shows_published ""
  | provisionFailed fails =>
      exact spent_provision fun document rendered =>
        absurd rendered (not_renders_of_fails fails)
  | updated present read rendered =>
      refine spent_update fun _ _ document _ _ rendered' => ?_
      obtain rfl := Except.ok.inj (rendered.symm.trans rendered')
      exact shows_published ""
  | updateFailed present fails =>
      exact spent_update fun _ _ document _ _ rendered =>
        absurd rendered (not_renders_of_fails fails)
  | updateUnreadable present unreadable =>
      refine spent_update fun item inst document row read rendered => ?_
      obtain rfl := Option.some.inj (present.symm.trans row)
      cases read.symm.trans unreadable
  | updateMissed absent =>
      exact spent_update fun item inst document row read rendered => by
        cases absent.symm.trans row
  | deprovisioned => exact spent_deprovision ⟨update_self _ _ _, update_self _ _ _⟩

theorem Aws.Shows.congr {document : Value} {u : InstanceUpdate}
    (shows : w.Shows settings id document u) (row : w'.instances id = w.instances id)
    (artifact : w'.bucket (settings.artifactKey id) = w.bucket (settings.artifactKey id)) :
    w'.Shows settings id document u := by
  rwa [Aws.Shows, row, artifact]

theorem Aws.Spent.congr (spent : w.Spent settings payload)
    (same : ∀ id ∈ payload.instanceId, w'.instances id = w.instances id ∧
      w'.bucket (settings.artifactKey id) = w.bucket (settings.artifactKey id)) :
    w'.Spent settings payload := by
  constructor
  · rintro id request document rfl rendered
    obtain ⟨row, artifact⟩ := same id rfl
    exact (spent.provision _ _ _ rfl rendered).congr row artifact
  · rintro id service plan parameters item inst document rfl present read rendered
    obtain ⟨row, artifact⟩ := same id rfl
    exact (spent.update _ _ _ _ _ _ _ rfl (row ▸ present) read rendered).congr row artifact
  · rintro id rfl
    obtain ⟨row, artifact⟩ := same id rfl
    rw [row, artifact]
    exact spent.deprovision id rfl

/-! ## Handlings with a fault -/

theorem Aws.Spent.unchanged_with (spent : w.Spent settings payload)
    (task : payload.IsInstanceTask) :
    w.Unchanged settings
      (w.handleWith settings .provision draws fault ⟨receipt, .object payload⟩) := by
  intro id
  have whole : Handled settings draws.now receipt w payload _ := handled task
  obtain ⟨rows, artifacts⟩ := partly_handled settings w task receipt draws fault
  rw [rows, artifacts]
  constructor
  · split
    · exact (spent.unchanged whole id).1
    · rfl
  · split
    · exact (spent.unchanged whole id).2
    · rfl

theorem Aws.Spent.handledWith (spent : w.Spent settings payload) (task : payload.IsInstanceTask) :
    (w.handleWith settings .provision draws fault ⟨receipt, .object payload⟩).Spent settings
      payload := by
  have whole : Handled settings draws.now receipt w payload _ := handled task
  obtain ⟨rows, -⟩ : Partly settings fault w payload _ _ :=
    partly_handled settings w task receipt draws fault
  have unchanged : w.Unchanged settings
      (w.handleWith settings .provision draws fault ⟨receipt, .object payload⟩) :=
    spent.unchanged_with task
  split at rows
  · refine whole.spent.congr fun id _ => ⟨congrFun rows id, ?_⟩
    exact (unchanged id).2.trans (spent.unchanged whole id).2.symm
  · exact spent.congr fun id _ => ⟨congrFun rows id, (unchanged id).2⟩

/-! ## Runs -/

variable {s : Deliveries} {m : Message}

theorem Deliveries.Quiet.concat {e : Finished}
    (quiet : Deliveries.Quiet ⟨w', s.history ++ [e]⟩ m) :
    e = .handled .provision m none ∨ s.Quiet m ∧
      ((∃ fault, e = .handled .provision m fault) ∨ ∀ id ∈ m.about, ¬e.Touches id) := by
  obtain ⟨earlier, later, split, own⟩ := quiet
  rcases List.eq_nil_or_concat later with rfl | ⟨later, last, rfl⟩
  · exact .inl (List.singleton_inj.mp (List.append_inj' split rfl).2)
  · simp only [List.concat_eq_append, ← List.cons_append, ← List.append_assoc] at split own
    obtain ⟨before, same⟩ := List.append_inj' split rfl
    obtain rfl := List.singleton_inj.mp same
    refine .inr ⟨⟨earlier, later, before, fun e member => own e ?_⟩, own e ?_⟩
    · exact List.mem_append_left _ member
    · exact List.mem_append_right _ (List.mem_singleton_self e)

theorem Deliveries.Quiet.handled (quiet : s.Quiet m) : m ∈ s.tasks := by
  obtain ⟨earlier, later, split, -⟩ := quiet
  simp [Deliveries.tasks, split]

structure Deliveries.Sound (settings : Settings) (s : Deliveries) : Prop where
  sorted : s.aws.Sorted
  tasks : ∀ m ∈ s.tasks, ∃ payload, m.body = .object payload ∧ payload.IsInstanceTask
  spent : ∀ receipt payload, s.Quiet ⟨receipt, .object payload⟩ → s.aws.Spent settings payload

theorem Deliveries.Sound.answered (sound : s.Sound settings) (self : ExecutionName)
    (asked : Request) :
    Deliveries.Sound settings ⟨(s.aws.answerWith fault self now asked).2,
      s.history ++ [.answered asked (s.aws.answerWith fault self now asked).1]⟩ := by
  refine ⟨sound.sorted.answerWith, fun m member => sound.tasks m ?_,
    fun receipt payload quiet => ?_⟩
  · simpa [Deliveries.tasks] using member
  · obtain same | ⟨quiet, same | untouched⟩ := quiet.concat
    · cases same
    · obtain ⟨fault, same⟩ := same
      cases same
    · refine (sound.spent receipt payload quiet).congr fun id own => ?_
      by_cases rejected : (s.aws.answerWith fault self now asked).1.isOsbError
      · rw [rejected_unwritten rejected]
        exact ⟨rfl, rfl⟩
      · obtain ⟨row, bucket⟩ := answerWith_other fault
          fun touches => untouched id own ⟨touches.1, touches.2, rejected⟩
        exact ⟨row, congrFun bucket _⟩

theorem Deliveries.Sound.handled (sound : s.Sound settings) (sorted : w.Sorted)
    (task : payload.IsInstanceTask) (instances : w.instances = s.aws.instances)
    (bucket : w.bucket = s.aws.bucket) :
    Deliveries.Sound settings
      ⟨w.handleWith settings .provision draws fault ⟨receipt, .object payload⟩,
        s.history ++ [.handled .provision ⟨receipt, .object payload⟩ fault]⟩ := by
  refine ⟨sorted.handleWith, fun m member => ?_, fun receipt' payload' quiet => ?_⟩
  · have member : m ∈ s.tasks ∨ m = ⟨receipt, .object payload⟩ := by
      simpa [Deliveries.tasks] using member
    rcases member with member | rfl
    · exact sound.tasks m member
    · exact ⟨payload, rfl, task⟩
  · obtain same | ⟨quiet, same | untouched⟩ := quiet.concat
    · obtain ⟨⟨rfl, ⟨⟩⟩, rfl⟩ : (receipt = receipt' ∧
          (MessageBody.object payload = .object payload')) ∧ fault = none := by simpa using same
      exact (Osb.handled task).spent
    · obtain ⟨fault', same⟩ := same
      obtain ⟨⟨rfl, ⟨⟩⟩, rfl⟩ : (receipt = receipt' ∧
          (MessageBody.object payload = .object payload')) ∧ fault = fault' := by simpa using same
      refine Aws.Spent.handledWith ?_ task
      exact (sound.spent receipt payload quiet).congr fun id _ => by simp [instances, bucket]
    · refine (sound.spent receipt' payload' quiet).congr fun id own => ?_
      obtain ⟨row, artifact⟩ := handleWith_other (untouched id own) task
      rw [row, artifact, instances, bucket]
      exact ⟨rfl, rfl⟩

theorem Deliveries.Sound.bindingHandled (sound : s.Sound settings) (sorted : w.Sorted)
    (task : payload.IsBindingTask) (instances : w.instances = s.aws.instances)
    (bucket : w.bucket = s.aws.bucket) :
    Deliveries.Sound settings
      ⟨w.handleWith settings .binding draws fault ⟨receipt, .object payload⟩,
        s.history ++ [.handled .binding ⟨receipt, .object payload⟩ fault]⟩ := by
  refine ⟨sorted.handleWith, fun m member => sound.tasks m ?_, fun receipt' payload' quiet => ?_⟩
  · simpa [Deliveries.tasks] using member
  · obtain same | ⟨quiet, -⟩ := quiet.concat
    · cases same
    · have same : w.SameInstances
          (w.handleWith settings .binding draws fault ⟨receipt, .object payload⟩) :=
        handleWith_binding task
      refine (sound.spent receipt' payload' quiet).congr fun id _ => ?_
      rw [same.instances, same.bucket, instances, bucket]
      exact ⟨rfl, rfl⟩

theorem Deliveries.Sound.step (sound : s.Sound settings) (d : Delivery) :
    (s.step settings d).Sound settings := by
  cases d with
  | request asked serial now fault => exact sound.answered _ asked
  | first queue draws fault =>
      cases queue with
      | provision =>
          cases tasks : s.aws.provisionTasks with
          | nil =>
              simp only [Deliveries.step, Aws.tasks, tasks]
              exact sound
          | cons message rest =>
              obtain ⟨payload, body, task⟩ := sound.sorted.provision message (by simp [tasks])
              obtain ⟨receipt, _⟩ := message
              subst body
              simp only [Deliveries.step, Aws.tasks, tasks, Aws.setTasks]
              refine sound.handled ⟨fun m member => sound.sorted.provision m ?_,
                sound.sorted.binding⟩ task rfl rfl
              exact tasks ▸ List.mem_cons_of_mem _ member
      | binding =>
          cases tasks : s.aws.bindingTasks with
          | nil =>
              simp only [Deliveries.step, Aws.tasks, tasks]
              exact sound
          | cons message rest =>
              obtain ⟨payload, body, task⟩ := sound.sorted.binding message (by simp [tasks])
              obtain ⟨receipt, _⟩ := message
              subst body
              simp only [Deliveries.step, Aws.tasks, tasks, Aws.setTasks]
              refine sound.bindingHandled ⟨sound.sorted.provision,
                fun m member => sound.sorted.binding m ?_⟩ task rfl rfl
              exact tasks ▸ List.mem_cons_of_mem _ member
  | again k draws fault =>
      rw [Deliveries.step]
      cases found : s.tasks[k]? with
      | none => exact sound
      | some message =>
          obtain ⟨payload, body, task⟩ := sound.tasks message (List.mem_of_getElem? found)
          obtain ⟨receipt, _⟩ := message
          subst body
          exact sound.handled sound.sorted task rfl rfl

theorem sound_after (settings : Settings) (deliveries : List Delivery) :
    (Deliveries.after settings deliveries).Sound settings := by
  refine Machine.exec_invariant (I := Deliveries.Sound settings) _
    (fun _ d sound _ => sound.step d) ?_ (.true _ _ deliveries)
  refine ⟨Aws.Sorted.init, fun _ member => absurd member List.not_mem_nil, ?_⟩
  exact fun receipt payload quiet => absurd quiet.handled List.not_mem_nil

/-- In every run, whatever was delivered again in it and whichever calls failed: when a message's
instance was left alone since the message was handled, a further delivery changes no row and no
artifact. -/
theorem quiet_delivery_harmless (settings : Settings) (deliveries : List Delivery) (k : Nat)
    (draws : Draws) (fault : Option Fault)
    (quiet : ∀ m ∈ (Deliveries.after settings deliveries).tasks[k]?,
      (Deliveries.after settings deliveries).Quiet m) :
    (Deliveries.after settings deliveries).aws.Unchanged settings
      (Deliveries.after settings (deliveries ++ [.again k draws fault])).aws := by
  have sound := sound_after settings deliveries
  have again : Deliveries.after settings (deliveries ++ [.again k draws fault]) =
      (Deliveries.after settings deliveries).step settings (.again k draws fault) := by
    rw [Deliveries.after, Machine.exec, List.foldl_append]
    rfl
  rw [again, Deliveries.step]
  generalize Deliveries.after settings deliveries = s at sound quiet
  cases found : s.tasks[k]? with
  | none => exact .refl settings _
  | some message =>
      obtain ⟨payload, body, task⟩ := sound.tasks message (List.mem_of_getElem? found)
      obtain ⟨receipt, _⟩ := message
      subst body
      exact (sound.spent receipt payload (quiet _ found)).unchanged_with task

def oneLife : List Delivery :=
  let put (id plan : String) (serial : Nat) : Delivery :=
    .request (.provision id ⟨"s", plan, ∅, ∅⟩ true) serial "now" none
  [put "a" "p" 0, .first .provision ⟨"now", "token"⟩ none,
    .again 0 ⟨"later", "token"⟩ (some ⟨1, false⟩), put "a" "q" 1, put "b" "p" 0,
    .first .provision ⟨"now", "token"⟩ none]

theorem provision_again_harmless :
    (Deliveries.after {} oneLife).aws.Unchanged {}
      (Deliveries.after {} (oneLife ++ [.again 0 ⟨"later", "token"⟩ none])).aws := by
  refine quiet_delivery_harmless {} oneLife 0 ⟨"later", "token"⟩ none fun m handled => ?_
  obtain rfl : ⟨⟨"a", 0⟩, .object (.provision "a" ⟨"s", "p", ∅, ∅⟩)⟩ = m :=
    Option.some.inj handled
  refine ⟨[_], [_, _, _, _], rfl, ?_⟩
  simp only [List.forall_mem_cons]
  refine ⟨.inl ⟨_, rfl⟩, .inr fun id own touches => touches.2.2 ⟨_, _, rfl⟩,
    .inr fun id own touches => ?_, .inr fun id own touches => ?_, by simp⟩
  · cases own
    exact absurd touches.1 (by decide)
  · cases own
    exact absurd (show some "b" = some "a" from touches) (by decide)

def nextLife : List Delivery :=
  let create (serial : Nat) : Delivery :=
    .request (.provision "a" ⟨"s", "p", ∅, ∅⟩ true) serial "now" none
  let remove : Delivery := .request (.deprovision "a" "s" "p" true) 1 "now" none
  let work : Delivery := .first .provision ⟨"now", "token"⟩ none
  [create 0, work, remove, work, create 2, work]

theorem extra_deliveries_not_always_harmless :
    ¬∀ settings deliveries k draws, (∀ d ∈ deliveries, Delivery.fault d = none) →
      (Deliveries.after settings deliveries).aws.Unchanged settings
        (Deliveries.after settings (deliveries ++ [.again k draws none])).aws := by
  intro always
  have unchanged := always {} nextLife 1 ⟨"later", "token"⟩ (by decide)
  have row := congrArg Option.isSome (unchanged "a").1
  rw [Option.isSome_map, Option.isSome_map] at row
  revert row
  decide

end Regnant.Osb
