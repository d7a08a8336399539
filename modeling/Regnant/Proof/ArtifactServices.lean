import Regnant.Osb.Xds
import Regnant.Proof.Convergence

/-!
# The service of an artifact

The row of an instance keeps the service of its PUT. The handling of an update renders for the
service that the PATCH names, which nothing compares with the row.
-/

namespace Regnant.Osb
open Function (update update_of_ne)

def servicePath : List PathStep :=
  [.key "metadata", .key "service_id"]

def endpointPath : List PathStep :=
  [.key "clusters", .each, .key "load_assignment", .key "endpoints", .each, .key "lb_endpoints",
   .each, .key "endpoint", .key "address", .key "socket_address"]

def InstanceItem.upstream (item : InstanceItem) : Option Value :=
  (item.parameters.getD ∅).lookup "upstream"

/-- The document is for the service of the row, and when the parameters of the row have no upstream
its endpoint is the default one of that service. -/
structure InstanceItem.Owns (item : InstanceItem) (document : Value) : Prop where
  service : document.select servicePath = item.serviceId.toList.map Value.str
  endpoint : item.upstream = none → ∀ service ∈ item.serviceId, ∃ host port,
    (defaultUpstream service).item "host" = .ok host ∧
      (defaultUpstream service).item "port" = .ok port ∧
      document.select endpointPath = [.dict [("address", host), ("port_value", port)]]

def Aws.ArtifactsOwned (settings : Settings) (w : Aws) : Prop :=
  ∀ id item document, w.instances id = some item →
    w.bucket (settings.artifactKey id) = some document → item.Owns document

/-- The handling of the message renders the instance for another service than its row has. -/
def Aws.Mislabels (w : Aws) (p : Payload) : Prop :=
  ∃ id service plan parameters item inst, p = .update id service plan parameters ∧
    w.instances id = some item ∧ instanceFromItem id item = .ok inst ∧
    Renders id service plan parameters ∧ inst.serviceId ≠ service

def Broker.Mislabels (s : Broker) : Step → Prop
  | .work .provision _ => ∃ m ∈ s.aws.provisionTasks.head?, ∃ p ∈ m.payload, s.aws.Mislabels p
  | _ => False

variable {settings : Settings} {self receipt : ExecutionName} {now id service plan : String}
  {w w' : Aws} {payload : Payload} {request : Request} {response : Response} {parameters : Dict}
  {document : Value} {item : InstanceItem} {inst : Instance}

theorem render_select (rendered : renderResources id service plan parameters = .ok document) :
    document.select servicePath = [.str service] := by
  simp only [renderResources] at rendered
  cases port : ((parameters.lookup "listen_port").getD (.int 10000)).toInt with
  | error e => simp [port, bind, Except.bind] at rendered
  | ok listenPort =>
      simp only [port, bind, Except.bind, pure, Except.pure] at rendered
      repeat' split at rendered
      all_goals cases rendered
      all_goals rfl

theorem render_endpoint (rendered : renderResources id service plan parameters = .ok document)
    (none : parameters.lookup "upstream" = none) :
    ∃ host port, (defaultUpstream service).item "host" = .ok host ∧
      (defaultUpstream service).item "port" = .ok port ∧
      document.select endpointPath = [.dict [("address", host), ("port_value", port)]] := by
  simp only [renderResources, none] at rendered
  cases port : ((parameters.lookup "listen_port").getD (.int 10000)).toInt with
  | error e => simp [port, bind, Except.bind] at rendered
  | ok listenPort =>
      cases host : (defaultUpstream service).item "host" with
      | error e => simp [port, host, bind, Except.bind] at rendered
      | ok host =>
          cases port' : (defaultUpstream service).item "port" with
          | error e => simp [port, host, port', bind, Except.bind] at rendered
          | ok port'' =>
              simp only [port, host, port', bind, Except.bind, pure, Except.pure] at rendered
              cases rendered
              exact ⟨_, _, rfl, rfl, rfl⟩

theorem owns_rendered (rendered : renderResources id service plan parameters = .ok document)
    (within : item.upstream = none → parameters.lookup "upstream" = none) :
    item.Owns document ↔ item.serviceId = some service := by
  constructor
  · intro owns
    have own := (render_select rendered).symm.trans owns.service
    cases serviceId : item.serviceId <;> simp_all
  · intro own
    refine ⟨by rw [render_select rendered, own]; rfl, fun none service' member => ?_⟩
    obtain rfl : service = service' := Option.some.inj (own.symm.trans member)
    exact render_endpoint rendered (within none)

/-! ## The life of an instance that is created once -/

/-- The provision message of an instance is the first of its messages, and until it is handled the
row is the one that was created with it, up to PATCHes. -/
structure View.Orderly (id : String) (v : View) : Prop where
  unused : creation v.accepted = none → v.row = none ∧ v.tasks = []
  first : ∀ p ∈ v.tasks.tail, p.op ≠ some .provision
  bare : v.row = none → v.artifact = none
  pending : ∀ payload waiting, v.tasks = .provision id payload :: waiting →
    ∃ item, v.row = some item ∧ item.serviceId = some payload.serviceId ∧
      (item.upstream = none → payload.parameters.lookup "upstream" = none)

theorem upstream_apply {u : InstanceUpdate} (kept : u.parameters = none) :
    (u.apply item).upstream = item.upstream := by
  simp [InstanceItem.upstream, InstanceUpdate.apply, kept]

theorem upstream_updateQueued {payload : UpdateRequest}
    (read : instanceFromItem id item = .ok inst)
    (absent : ((updateQueued now payload inst).apply item).upstream = none) :
    item.upstream = none := by
  obtain ⟨-, -, -, parameters, -⟩ := instanceFromItem_ok read
  have merged : (inst.parameters.merge payload.parameters).lookup "upstream" = none := absent
  rw [Dict.lookup_merge, Option.or_eq_none_iff, parameters] at merged
  exact merged.2

theorem View.Orderly.handled {v : View} {p : Payload} {waiting : List Payload}
    {row : Option InstanceItem} {artifact : Option Value} (orderly : v.Orderly id)
    (tasks : v.tasks = p :: waiting) (bare : row = none → artifact = none) :
    ({ v with row, artifact, tasks := waiting } : View).Orderly id := by
  have others : ∀ q ∈ waiting, q.op ≠ some .provision := by
    simpa [tasks] using orderly.first
  refine ⟨fun unused => ?_, fun q member => others q (List.mem_of_mem_tail member), bare, ?_⟩
  · have empty := (orderly.unused unused).2
    simp [tasks] at empty
  · rintro payload waiting' rfl
    exact absurd rfl (others (.provision id payload) List.mem_cons_self)

theorem View.Orderly.queued {v : View} {p : Payload} {item' : InstanceItem} {a : Accepted}
    (orderly : v.Orderly id) (present : v.row = some item) (other : p.op ≠ some .provision)
    (service : item'.serviceId = item.serviceId)
    (upstream : item'.upstream = none → item.upstream = none) :
    ({ v with
      row := some item', tasks := v.tasks ++ [p], accepted := v.accepted ++ [a] } : View).Orderly
        id := by
  refine ⟨fun unused => ?_, ?_, fun absent => (by cases absent), ?_⟩
  · rw [creation_concat, Option.or_eq_none_iff] at unused
    have row := (orderly.unused unused.1).1
    simp [present] at row
  · intro q member
    cases tasks : v.tasks with
    | nil => simp [tasks] at member
    | cons head rest =>
        simp only [tasks, List.cons_append, List.tail_cons, List.mem_append,
          List.mem_singleton] at member
        rcases member with earlier | rfl
        · exact orderly.first q (by simpa [tasks] using earlier)
        · exact other
  · intro payload waiting split
    cases tasks : v.tasks with
    | nil =>
        simp only [tasks, List.nil_append, List.cons.injEq] at split
        exact absurd (split.1 ▸ rfl) other
    | cons head rest =>
        simp only [tasks, List.cons_append, List.cons.injEq] at split
        obtain ⟨item'', row, same, within⟩ := orderly.pending payload rest (by rw [tasks, split.1])
        obtain rfl := Option.some.inj (present.symm.trans row)
        exact ⟨item', rfl, service.trans same, fun absent => within (upstream absent)⟩

theorem View.Orderly.local {s : Broker} {i : Step} {v' : View}
    (orderly : (s.view settings id).Orderly id) (step : Local settings id s i v')
    (once : (v'.accepted.filterMap Accepted.creation).length ≤ 1) : v'.Orderly id := by
  cases step with
  | @created payload _ now absent =>
      have empty := (orderly.unused (creation_none_of_once once)).2
      refine ⟨fun unused => ?_, by simp [empty], fun none => (by cases none), ?_⟩
      · simp [creation_concat, Accepted.creation] at unused
      · intro payload' waiting split
        simp only [empty, List.nil_append, List.cons.injEq, Payload.provision_inj] at split
        obtain ⟨⟨-, rfl⟩, -⟩ := split
        exact ⟨_, rfl, rfl, fun none => none⟩
  | matched present read service plan =>
      refine ⟨fun unused => ?_, orderly.first, orderly.bare, orderly.pending⟩
      rw [creation_concat, Option.or_eq_none_iff] at unused
      exact orderly.unused unused.1
  | updateQueued present read =>
      exact orderly.queued present (by simp [Payload.update]) rfl (upstream_updateQueued read)
  | deprovisionQueued present read =>
      exact orderly.queued present (by simp [Payload.deprovision]) rfl fun absent =>
        (upstream_apply rfl).symm.trans absent
  | provisioned head tasks rendered => exact orderly.handled tasks fun none => by cases none
  | provisionFailed tasks fails => exact orderly.handled tasks orderly.bare
  | updated tasks present read rendered => exact orderly.handled tasks fun none => by cases none
  | updateFailed tasks present fails => exact orderly.handled tasks orderly.bare
  | updateUnreadable tasks present unreadable => exact orderly.handled tasks orderly.bare
  | updateMissed tasks absent => exact orderly.handled tasks orderly.bare
  | deprovisioned tasks => exact orderly.handled tasks fun _ => rfl

theorem owned_others (owned : w.ArtifactsOwned settings)
    (rows : ∀ id', id' ≠ id → w'.instances id' = w.instances id')
    (artifacts : ∀ key, key ≠ settings.artifactKey id → w'.bucket key = w.bucket key)
    (own : ∀ item document, w'.instances id = some item →
      w'.bucket (settings.artifactKey id) = some document → item.Owns document) :
    w'.ArtifactsOwned settings := by
  intro id' item document row artifact
  by_cases same : id' = id
  · subst same
    exact own item document row artifact
  · rw [rows id' same] at row
    rw [artifacts _ (settings.artifactKey_injective.ne same)] at artifact
    exact owned id' item document row artifact

theorem owned_written {u : InstanceUpdate} (owned : w.ArtifactsOwned settings)
    (present : w.instances id = some item) (upstream : (u.apply item).upstream = none →
      item.upstream = none)
    (rows : w'.instances = update w.instances id (some (u.apply item)))
    (same : w'.bucket = w.bucket) : w'.ArtifactsOwned settings := by
  refine owned_others owned (fun _ other => by rw [rows, update_of_ne other])
    (fun _ _ => by rw [same]) fun item' document row artifact => ?_
  rw [rows, Function.update_self, Option.some.injEq] at row
  rw [same] at artifact
  subst row
  obtain ⟨service, endpoint⟩ := owned id item document present artifact
  exact ⟨service, fun none => endpoint (upstream none)⟩

theorem artifactsOwned_answered (owned : w.ArtifactsOwned settings)
    (bare : ∀ id, w.instances id = none → w.bucket (settings.artifactKey id) = none)
    (answered : Answered self now w request response w') : w'.ArtifactsOwned settings := by
  cases answered with
  | @created id payload valid absent =>
      refine owned_others owned (fun _ other => update_of_ne other _ _) (fun _ _ => rfl)
        fun item document row artifact => ?_
      cases (bare id absent).symm.trans artifact
  | matched => exact owned
  | updateQueued present read =>
      exact owned_written owned present (upstream_updateQueued read) rfl rfl
  | deprovisionQueued present read =>
      exact owned_written owned present (fun absent => (upstream_apply rfl).symm.trans absent) rfl
        rfl
  | other quiet same =>
      rw [Aws.ArtifactsOwned, same.instances, same.bucket]
      exact owned

theorem owned_published {queue : QueueName} {u : InstanceUpdate} (owned : w.ArtifactsOwned settings)
    (present : w.instances id = some item) :
    ((w.published settings id document u).acknowledged queue receipt).ArtifactsOwned settings ↔
      (u.apply item).Owns document := by
  have row : ((w.published settings id document u).acknowledged queue receipt).instances id =
      some (u.apply item) := by
    simp [Aws.published, Aws.acknowledged, present]
  have artifact : ((w.published settings id document u).acknowledged queue receipt).bucket
      (settings.artifactKey id) = some document := Function.update_self _ _ _
  constructor
  · exact fun all => all id _ _ row artifact
  · intro own
    refine owned_others owned (fun _ other => update_of_ne other _ _)
      (fun _ other => update_of_ne other _ _) fun item' document' row' artifact' => ?_
    obtain rfl := Option.some.inj (row.symm.trans row')
    obtain rfl := Option.some.inj (artifact.symm.trans artifact')
    exact own

theorem artifactsOwned_handled (owned : w.ArtifactsOwned settings)
    (pending : ∀ id request, payload = .provision id request →
      ∃ item, w.instances id = some item ∧ item.serviceId = some request.serviceId ∧
        (item.upstream = none → request.parameters.lookup "upstream" = none))
    (handled : Handled settings now receipt w payload w') :
    w'.ArtifactsOwned settings ↔ ¬w.Mislabels payload := by
  cases handled with
  | @provisioned id request document rendered =>
      obtain ⟨item, present, service, within⟩ := pending id request rfl
      have own : ((provisioned settings now id).apply item).Owns document ↔ _ :=
        owns_rendered rendered fun absent => within ((upstream_apply rfl).symm.trans absent)
      refine iff_of_true ?_ ?_
      · rw [owned_published owned present, own]
        exact service
      · rintro ⟨_, _, _, _, _, _, same, -⟩
        exact absurd same.symm Payload.update_ne_provision
  | provisionFailed fails =>
      refine iff_of_true owned ?_
      rintro ⟨_, _, _, _, _, _, same, -⟩
      exact absurd same.symm Payload.update_ne_provision
  | @updated id service plan parameters item inst document present read rendered =>
      have own : ((Osb.updated settings now id plan parameters).apply item).Owns document ↔ _ :=
        owns_rendered rendered fun none => none
      rw [owned_published owned present, own]
      constructor
      · rintro own ⟨id', service', plan', parameters', item', inst', same, row, read', -, differs⟩
        obtain ⟨rfl, rfl, rfl, rfl⟩ := Payload.update_inj.mp same
        obtain rfl := Option.some.inj (present.symm.trans row)
        obtain rfl := Except.ok.inj (read.symm.trans read')
        exact differs (Option.some.inj ((instanceFromItem_ok read).1.symm.trans own))
      · intro labelled
        by_contra differs
        refine labelled ⟨id, service, plan, parameters, item, inst, rfl, present, read,
          renders_iff.mpr ⟨document, rendered⟩, fun same => differs ?_⟩
        exact (instanceFromItem_ok read).1.trans (congrArg some same)
  | @updateFailed id service plan parameters item present fails =>
      refine iff_of_true owned ?_
      rintro ⟨id', service', plan', parameters', item', inst', same, -, -, renders, -⟩
      obtain ⟨rfl, rfl, rfl, rfl⟩ := Payload.update_inj.mp same
      exact fails renders
  | @updateUnreadable id service plan parameters item e present unreadable =>
      refine iff_of_true owned ?_
      rintro ⟨id', service', plan', parameters', item', inst', same, row, read, -⟩
      obtain ⟨rfl, rfl, rfl, rfl⟩ := Payload.update_inj.mp same
      obtain rfl := Option.some.inj (present.symm.trans row)
      cases unreadable.symm.trans read
  | @updateMissed id service plan parameters absent =>
      refine iff_of_true owned ?_
      rintro ⟨id', service', plan', parameters', item', inst', same, row, -⟩
      obtain ⟨rfl, rfl, rfl, rfl⟩ := Payload.update_inj.mp same
      cases absent.symm.trans row
  | deprovisioned =>
      refine iff_of_true ?_ ?_
      · refine owned_others owned (fun _ other => update_of_ne other _ _)
          (fun _ other => update_of_ne other _ _) fun item document row => ?_
        simp [Aws.acknowledged, Aws.removed] at row
      · rintro ⟨_, _, _, _, _, _, same, -⟩
        exact absurd same.symm Payload.update_ne_deprovision

structure Broker.Orderly (settings : Settings) (s : Broker) : Prop where
  sorted : s.aws.Sorted
  views : ∀ id, (s.view settings id).Orderly id

theorem Broker.Orderly.step {s : Broker} {i : Step} (orderly : s.Orderly settings)
    (once : (s.step settings i).created.Nodup) : (s.step settings i).Orderly settings := by
  refine ⟨orderly.sorted.step i, fun id => ?_⟩
  rcases transition_local settings id (step_transition orderly.sorted i) with same | seen
  · rw [same]
    exact orderly.views id
  · exact (orderly.views id).local seen (created_once once id)

theorem Broker.Mislabels.differs {s : Broker} {i : Step} (mislabels : s.Mislabels i) :
    ∃ p ∈ s.aws.payloads.head?, p.op = some .update ∧ ∃ id ∈ p.instanceId,
      ∃ item ∈ s.aws.instances id, item.serviceId ≠ p.serviceId := by
  cases i with
  | request => exact mislabels.elim
  | work queue draws =>
      cases queue with
      | binding => exact mislabels.elim
      | provision =>
          obtain ⟨m, head, p, payload, mislabels⟩ := mislabels
          obtain ⟨id, service, plan, parameters, item, inst, rfl, row, read, -, differs⟩ :=
            mislabels
          refine ⟨.update id service plan parameters, ?_, rfl, id, rfl, item, row,
            fun same => differs ?_⟩
          · cases tasks : s.aws.provisionTasks with
            | nil => simp [tasks] at head
            | cons m' rest =>
                obtain rfl : m' = m := by simpa [tasks] using head
                rw [Aws.payloads, tasks, List.filterMap_cons_some payload]
                rfl
          · exact Option.some.inj ((instanceFromItem_ok read).1.symm.trans same)

theorem artifactsOwned_step {s : Broker} {i : Step} (orderly : s.Orderly settings)
    (owned : s.aws.ArtifactsOwned settings) :
    (s.step settings i).aws.ArtifactsOwned settings ↔ ¬s.Mislabels i := by
  have transition : Transition settings s i (s.step settings i) := step_transition orderly.sorted i
  generalize s.step settings i = s' at transition
  cases transition with
  | answered answered =>
      have bare (id : String) := (orderly.views id).bare
      exact iff_of_true (artifactsOwned_answered owned bare answered) id
  | @handled draws receipt payload rest w' head handled =>
      have same : s.Mislabels (.work .provision draws) ↔
          Aws.Mislabels { s.aws with provisionTasks := rest } payload := by
        simp [Broker.Mislabels, head, Message.payload, Aws.Mislabels]
      rw [same]
      refine artifactsOwned_handled (w := { s.aws with provisionTasks := rest }) owned ?_ handled
      rintro id request rfl
      exact (orderly.views id).pending request _ (tasksAbout_cons_self rfl head)
  | bindingHandled same =>
      refine iff_of_true ?_ id
      rw [Aws.ArtifactsOwned, same.instances, same.bucket]
      exact owned
  | idle empty =>
      refine iff_of_true owned ?_
      rename_i queue draws
      cases queue with
      | provision =>
          rintro ⟨m, head, -⟩
          simp [show s.aws.provisionTasks = [] from empty] at head
      | binding => exact id

/-- In a run in which no instance is created twice, every artifact is for the service of its row
exactly when no update is handled that names another service than the row. -/
theorem owned_iff_along (settings : Settings) (steps : List Step)
    (once : (Broker.after settings steps).created.Nodup) :
    (∀ before, before <+: steps →
      (Broker.after settings before).aws.ArtifactsOwned settings) ↔
      Machine.Along (Broker.step settings) (fun s i => ¬s.Mislabels i) .init steps := by
  have run := Machine.Along.of_final (Broker.step settings)
    (P := fun s => s.created.Nodup) (fun s i final => ?_) once
  · refine Machine.invariant_iff_along_of (I := fun s => s.aws.ArtifactsOwned settings)
      (J := Broker.Orderly settings) _ ?_ ?_ run.2 ⟨Aws.Sorted.init, fun id => ?_⟩ ?_
    · exact fun s i orderly once => orderly.step once
    · exact fun s i orderly _ owned => artifactsOwned_step orderly owned
    · exact ⟨fun _ => ⟨rfl, rfl⟩, fun p member => absurd member List.not_mem_nil, fun _ => rfl,
        fun payload waiting head => by cases head⟩
    · exact fun id item document row => by cases row
  · exact ((s.history_grows settings i).filterMap _).sublist.nodup final

def moved (service : String) : List Step :=
  [.request (.provision "a" ⟨"s", "p", ∅, ∅⟩ true) 0 "now", .work .provision ⟨"now", "token"⟩,
   .request (.update "a" ⟨service, none, ∅⟩ true) 1 "now", .work .provision ⟨"now", "token"⟩]

theorem patched_in_place_owned :
    (Broker.after {} (moved "s")).aws.ArtifactsOwned {} := by
  have labelled : Machine.Along (Broker.step {}) (fun s _ => ¬∃ p ∈ s.aws.payloads.head?,
      p.op = some .update ∧ ∃ id ∈ p.instanceId, ∃ item ∈ s.aws.instances id,
        item.serviceId ≠ p.serviceId) .init (moved "s") := by
    decide
  refine (owned_iff_along {} (moved "s") (by decide)).mpr ?_ _ (List.prefix_refl _)
  exact Machine.Along.mono _ (fun s i kept mislabels => kept mislabels.differs) labelled

theorem artifacts_not_always_owned :
    ¬∀ settings steps, (Broker.after settings steps).created.Nodup →
      (Broker.after settings steps).aws.ArtifactsOwned settings := by
  intro always
  have artifact : (((Broker.after {} (moved "t")).aws.bucket
      ((Settings.artifactKey {}) "a")).map
      (Value.select servicePath)) = some [.str "t"] := by
    decide
  have row : ((Broker.after {} (moved "t")).aws.instances "a").map (·.serviceId) =
      some (some "s") := by
    decide
  obtain ⟨document, artifact, service⟩ := Option.map_eq_some_iff.mp artifact
  obtain ⟨item, row, own⟩ := Option.map_eq_some_iff.mp row
  have owns := (always {} (moved "t") (by decide) "a" item document row artifact).service
  simp [service, own] at owns

end Regnant.Osb
