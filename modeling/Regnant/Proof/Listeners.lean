import Regnant.Proof.Names
import Regnant.Proof.Transitions

namespace Regnant.Osb
open Function (update update_of_ne)

def Aws.Available (w : Aws) (id : String) : Prop :=
  ∃ item, w.instances id = some item ∧ item.state = some .available

def Aws.Collide (settings : Settings) (w : Aws) (id id' : String) : Prop :=
  ∃ document document', w.bucket (settings.artifactKey id) = some document ∧
    w.bucket (settings.artifactKey id') = some document' ∧
    ∃ address ∈ document.addresses, address ∈ document'.addresses

def Aws.ListenersApart (settings : Settings) (w : Aws) : Prop :=
  ∀ id id', id ≠ id' → w.Available id → w.Available id' → ¬w.Collide settings id id'

def Aws.PortTaken (settings : Settings) (w : Aws) (id : String) (parameters : Dict) : Prop :=
  ∃ id' document port, id' ≠ id ∧ w.Available id' ∧
    w.bucket (settings.artifactKey id') = some document ∧ listenPort parameters = .ok port ∧
    socketAddress port ∈ document.addresses

/-- The handling of the message publishes a document whose port is taken. -/
def Aws.Crowds (settings : Settings) (w : Aws) (p : Payload) : Prop :=
  (∃ id payload, p = .provision id payload ∧
    Renders id payload.serviceId payload.planId payload.parameters ∧
    w.PortTaken settings id payload.parameters) ∨
  (∃ id service plan parameters item inst, p = .update id service plan parameters ∧
    w.instances id = some item ∧ instanceFromItem id item = .ok inst ∧
    Renders id service plan parameters ∧ w.PortTaken settings id parameters)

def Broker.Crowded (settings : Settings) (s : Broker) : Step → Prop
  | .work .provision _ =>
      ∃ m ∈ s.aws.provisionTasks.head?, ∃ p ∈ m.payload, s.aws.Crowds settings p
  | _ => False

variable {settings : Settings} {self receipt : ExecutionName} {now id : String} {w w' : Aws}
  {payload : Payload} {request : Request} {response : Response}

theorem Aws.Collide.symm {id' : String} (collide : w.Collide settings id id') :
    w.Collide settings id' id := by
  obtain ⟨document, document', artifact, artifact', address, binds, binds'⟩ := collide
  exact ⟨document', document, artifact', artifact, address, binds', binds⟩

theorem Aws.not_available {item : InstanceItem} {state : InstanceState}
    (row : w.instances id = some item) (written : item.state = some state)
    (other : state ≠ .available) : ¬w.Available id := by
  rintro ⟨item', row', available⟩
  obtain rfl : item' = item := Option.some.inj (row'.symm.trans row)
  exact other (Option.some.inj (written.symm.trans available))

theorem Aws.available_iff (row : w'.instances id = w.instances id) :
    w'.Available id ↔ w.Available id := by
  rw [Aws.Available, row, Aws.Available]

theorem Aws.ListenersApart.mono (apart : w.ListenersApart settings)
    (same : ∀ id, w'.Available id → w.Available id ∧
      w'.bucket (settings.artifactKey id) = w.bucket (settings.artifactKey id)) :
    w'.ListenersApart settings := by
  rintro id id' distinct available available' ⟨document, document', artifact, artifact', shared⟩
  obtain ⟨before, kept⟩ := same id available
  obtain ⟨before', kept'⟩ := same id' available'
  exact apart id id' distinct before before'
    ⟨document, document', kept ▸ artifact, kept' ▸ artifact', shared⟩

theorem Aws.ListenersApart.unavailable (apart : w.ListenersApart settings)
    (rows : ∀ id', id' ≠ id → w'.instances id' = w.instances id')
    (artifacts : ∀ key, key ≠ settings.artifactKey id → w'.bucket key = w.bucket key)
    (own : ¬w'.Available id) : w'.ListenersApart settings := by
  refine apart.mono fun id' available => ?_
  have other : id' ≠ id := fun same => own (same ▸ available)
  exact ⟨(available_iff (rows id' other)).mp available,
    artifacts _ (settings.artifactKey_injective.ne other)⟩

theorem listenersApart_answered (apart : w.ListenersApart settings)
    (answered : Answered self now w request response w') : w'.ListenersApart settings := by
  cases answered with
  | created valid absent =>
      refine apart.unavailable (fun _ other => update_of_ne other _ _) (fun _ _ => rfl) ?_
      exact Aws.not_available (Function.update_self _ _ _) rfl (by simp)
  | matched => exact apart
  | updateQueued present read =>
      refine apart.unavailable (fun _ other => update_of_ne other _ _) (fun _ _ => rfl) ?_
      exact Aws.not_available (Function.update_self _ _ _) rfl (by simp [updateQueued])
  | deprovisionQueued present read =>
      refine apart.unavailable (fun _ other => update_of_ne other _ _) (fun _ _ => rfl) ?_
      exact Aws.not_available (Function.update_self _ _ _) rfl (by simp [deprovisionQueued])
  | other quiet same =>
      refine apart.mono fun id available => ?_
      exact ⟨(Aws.available_iff (congrFun same.instances id)).mp available,
        congrFun same.bucket _⟩

theorem listenersApart_published {queue : QueueName} (apart : w.ListenersApart settings)
    (u : InstanceUpdate) {document : Value} {service plan : String} {parameters : Dict}
    (rendered : renderResources id service plan parameters = .ok document)
    (state : u.state = .available) :
    ((w.published settings id document u).acknowledged queue receipt).ListenersApart settings ↔
      ¬w.PortTaken settings id parameters := by
  obtain ⟨port, given, reads⟩ := render_reads rendered
  set w' := (w.published settings id document u).acknowledged queue receipt
  have row (id' : String) (other : id' ≠ id) : w'.instances id' = w.instances id' :=
    update_of_ne other _ _
  have artifact (id' : String) (other : id' ≠ id) :
      w'.bucket (settings.artifactKey id') = w.bucket (settings.artifactKey id') :=
    update_of_ne (settings.artifactKey_injective.ne other) _ _
  have available : w'.Available id :=
    ⟨_, Function.update_self _ _ _, congrArg some state⟩
  have published : w'.bucket (settings.artifactKey id) = some document :=
    Function.update_self _ _ _
  have taken (id' : String) (other : id' ≠ id) (available' : w'.Available id')
      (collide : w'.Collide settings id id') : w.PortTaken settings id parameters := by
    obtain ⟨document₁, document', own, others, address, binds, binds'⟩ := collide
    obtain rfl := Option.some.inj (published.symm.trans own)
    rw [reads.addresses, List.mem_singleton] at binds
    subst binds
    exact ⟨id', document', port, other, (Aws.available_iff (row id' other)).mp available',
      artifact id' other ▸ others, given, binds'⟩
  constructor
  · rintro apart' ⟨id', document', port', other, available', artifact', given', binds⟩
    obtain rfl : port = port' := Except.ok.inj (given.symm.trans given')
    refine apart' id id' other.symm available ((Aws.available_iff (row id' other)).mpr available')
      ⟨document, document', published, (artifact id' other).trans artifact', socketAddress port,
        ?_, binds⟩
    rw [reads.addresses]
    exact List.mem_singleton_self _
  · intro free id₁ id₂ distinct available₁ available₂ collide
    -- two instances that come together are the published one and another, or were together before
    by_cases first : id₁ = id
    · subst first
      exact free (taken id₂ distinct.symm available₂ collide)
    · by_cases second : id₂ = id
      · subst second
        exact free (taken id₁ distinct available₁ collide.symm)
      · obtain ⟨document₁, document₂, artifact₁, artifact₂, shared⟩ := collide
        exact apart id₁ id₂ distinct ((Aws.available_iff (row id₁ first)).mp available₁)
          ((Aws.available_iff (row id₂ second)).mp available₂)
          ⟨document₁, document₂, artifact id₁ first ▸ artifact₁, artifact id₂ second ▸ artifact₂,
            shared⟩

theorem listenersApart_handled (apart : w.ListenersApart settings)
    (handled : Handled settings now receipt w payload w') :
    w'.ListenersApart settings ↔ ¬w.Crowds settings payload := by
  cases handled with
  | @provisioned id payload document rendered =>
      rw [listenersApart_published apart (provisioned settings now id) rendered rfl]
      refine not_congr ⟨fun taken => .inl ⟨id, payload, rfl, ?_, taken⟩, ?_⟩
      · exact renders_iff.mpr ⟨document, rendered⟩
      · rintro (⟨id', payload', same, -, taken⟩ | ⟨id', _, _, _, _, _, same, -⟩)
        · obtain ⟨rfl, rfl⟩ := Payload.provision_inj.mp same
          exact taken
        · exact absurd same.symm Payload.update_ne_provision
  | @provisionFailed id payload fails =>
      refine iff_of_true apart ?_
      rintro (⟨id', payload', same, renders, -⟩ | ⟨id', _, _, _, _, _, same, -⟩)
      · obtain ⟨rfl, rfl⟩ := Payload.provision_inj.mp same
        exact fails renders
      · exact absurd same.symm Payload.update_ne_provision
  | @updated id service plan parameters item inst document present read rendered =>
      rw [listenersApart_published apart (updated settings now id plan parameters) rendered rfl]
      refine not_congr ⟨fun taken => .inr ⟨id, service, plan, parameters, item, inst, rfl, present,
        read, renders_iff.mpr ⟨document, rendered⟩, taken⟩, ?_⟩
      rintro (⟨id', payload', same, -⟩ | ⟨id', _, _, _, _, _, same, -, -, -, taken⟩)
      · exact absurd same Payload.update_ne_provision
      · obtain ⟨rfl, rfl, rfl, rfl⟩ := Payload.update_inj.mp same
        exact taken
  | @updateFailed id service plan parameters item present fails =>
      refine iff_of_true apart ?_
      rintro (⟨id', payload', same, -⟩ | ⟨id', _, _, _, _, _, same, -, -, renders, -⟩)
      · exact absurd same Payload.update_ne_provision
      · obtain ⟨rfl, rfl, rfl, rfl⟩ := Payload.update_inj.mp same
        exact fails renders
  | @updateUnreadable id service plan parameters item e present unreadable =>
      refine iff_of_true apart ?_
      rintro (⟨id', payload', same, -⟩ | ⟨id', _, _, _, item', inst, same, row, read, -⟩)
      · exact absurd same Payload.update_ne_provision
      · obtain ⟨rfl, rfl, rfl, rfl⟩ := Payload.update_inj.mp same
        obtain rfl : item = item' := Option.some.inj (present.symm.trans row)
        simp [unreadable] at read
  | @updateMissed id service plan parameters absent =>
      refine iff_of_true (apart.mono fun id available => ⟨available, rfl⟩) ?_
      rintro (⟨id', payload', same, -⟩ | ⟨id', _, _, _, item', inst, same, row, -⟩)
      · exact absurd same Payload.update_ne_provision
      · obtain ⟨rfl, rfl, rfl, rfl⟩ := Payload.update_inj.mp same
        cases absent.symm.trans row
  | @deprovisioned id =>
      refine iff_of_true ?_ ?_
      · refine apart.unavailable (fun _ other => update_of_ne other _ _)
          (fun _ other => update_of_ne other _ _) ?_
        rintro ⟨item, row, -⟩
        simp [Aws.acknowledged, Aws.removed] at row
      · rintro (⟨id', payload', same, -⟩ | ⟨id', _, _, _, _, _, same, -⟩)
        · exact absurd same Payload.deprovision_ne_provision
        · exact absurd same.symm Payload.update_ne_deprovision

theorem listenersApart_step {s s' : Broker} {i : Step} (apart : s.aws.ListenersApart settings)
    (transition : Transition settings s i s') :
    s'.aws.ListenersApart settings ↔ ¬s.Crowded settings i := by
  cases transition with
  | answered answered => exact iff_of_true (listenersApart_answered apart answered) id
  | @handled _ _ payload rest _ head handled =>
      have apart_rest : ({ s.aws with provisionTasks := rest } : Aws).ListenersApart settings :=
        apart
      refine Iff.trans (listenersApart_handled apart_rest handled) (not_congr ?_)
      rw [Broker.Crowded, head]
      simp [Message.payload, Aws.Crowds, Aws.PortTaken, Aws.Available]
  | bindingHandled same =>
      refine iff_of_true (apart.mono fun id available => ?_) id
      exact ⟨(Aws.available_iff (congrFun same.instances id)).mp available,
        congrFun same.bucket _⟩
  | @idle queue _ empty =>
      refine iff_of_true apart ?_
      cases queue with
      | provision =>
          rw [Broker.Crowded, show s.aws.provisionTasks = [] from empty]
          simp
      | binding => exact id

/-- The listeners of the available instances are apart in every state of a run exactly when the run
publishes no document whose port another available instance has. -/
theorem listeners_apart_iff (settings : Settings) (steps : List Step) :
    (∀ before, before <+: steps → (Broker.after settings before).aws.ListenersApart settings) ↔
      Machine.Along (Broker.step settings) (fun s i => ¬s.Crowded settings i) .init steps :=
  Machine.invariant_iff_along (I := fun s : Broker => s.aws.ListenersApart settings)
    (J := fun s : Broker => s.aws.Sorted) _ (fun _ i sorted => sorted.step i)
    (fun _ i sorted apart => listenersApart_step apart (step_transition sorted i)) Aws.Sorted.init
    fun _ _ _ available => by obtain ⟨item, row, -⟩ := available; cases row

def defaultPorts : List Step :=
  let create (id : String) : Step := .request (.provision id ⟨"s", "p", ∅, ∅⟩ true) 0 "now"
  let work : Step := .work .provision ⟨"now", "token"⟩
  [create "a", create "b", work, work]

theorem listeners_not_always_apart :
    ¬∀ settings steps, (Broker.after settings steps).aws.ListenersApart settings := by
  intro always
  refine always {} defaultPorts "a" "b" (by decide) ⟨_, rfl, rfl⟩ ⟨_, rfl, rfl⟩ ?_
  exact ⟨_, _, rfl, rfl, socketAddress 10000, by decide, by decide⟩

end Regnant.Osb
