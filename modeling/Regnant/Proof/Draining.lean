import Regnant.Osb.Faults
import Regnant.Proof.BindingEffects
import Regnant.Proof.Footprint

namespace Regnant.Osb
open Function (update)

variable {settings : Settings} {w w' w'' : Aws} {self : ExecutionName} {now id bid : String}

theorem Aws.Same.refl (w : Aws) : w.Same w :=
  ⟨fun _ => rfl, fun _ => rfl, rfl⟩

theorem Aws.Same.symm (same : w.Same w') : w'.Same w :=
  ⟨fun id => (same.instances id).symm, fun key => (same.bindings key).symm, same.bucket.symm⟩

theorem Aws.Same.trans (same : w.Same w') (same' : w'.Same w'') : w.Same w'' :=
  ⟨fun id => (same.instances id).trans (same'.instances id),
    fun key => (same.bindings key).trans (same'.bindings key), same.bucket.trans same'.bucket⟩

theorem Aws.Same.update_row {row row' : Option InstanceItem} (same : w.Same w')
    (rows : row.map InstanceItem.untimed = row'.map InstanceItem.untimed) (id : String) :
    { w with instances := update w.instances id row }.Same
      { w' with instances := update w'.instances id row' } := by
  refine ⟨fun id' => ?_, same.bindings, same.bucket⟩
  by_cases here : id' = id
  · simpa [here] using rows
  · simpa [here] using same.instances id'

theorem Aws.Same.update_artifact (same : w.Same w') (artifact : Option Value) (key : String) :
    { w with bucket := update w.bucket key artifact }.Same
      { w' with bucket := update w'.bucket key artifact } :=
  ⟨same.instances, same.bindings, by simp only [same.bucket]⟩

theorem Aws.Same.update_binding {row row' : Option BindingItem} (same : w.Same w')
    (rows : row.map BindingItem.untimed = row'.map BindingItem.untimed) (key : String × String) :
    { w with bindings := update w.bindings key row }.Same
      { w' with bindings := update w'.bindings key row' } := by
  refine ⟨same.instances, fun key' => ?_, same.bucket⟩
  by_cases here : key' = key
  · simpa [here] using rows
  · simpa [here] using same.bindings key'

theorem Aws.Same.acknowledged {queue queue' : QueueName} {receipt receipt' : ExecutionName}
    (same : w.Same w') : (w.acknowledged queue receipt).Same (w'.acknowledged queue' receipt') :=
  ⟨same.instances, same.bindings, same.bucket⟩

def InstanceUpdate.Alike (u u' : InstanceUpdate) : Prop :=
  { u with updatedAt := "" } = { u' with updatedAt := "" }

theorem untimed_apply (u : InstanceUpdate) (item : InstanceItem) :
    (u.apply item).untimed = { u with updatedAt := "" }.apply item.untimed := rfl

theorem InstanceUpdate.apply_apply (u : InstanceUpdate) (item : InstanceItem) :
    u.apply (u.apply item) = u.apply item := by
  have twice {α : Type} (a b : Option α) : a.or (a.or b) = a.or b := by cases a <;> rfl
  simp only [apply, twice]

theorem InstanceUpdate.Alike.untimed {u u' : InstanceUpdate} (alike : u.Alike u')
    {item item' : InstanceItem} (same : item.untimed = item'.untimed) :
    (u.apply item).untimed = (u'.apply item').untimed := by
  rw [untimed_apply, untimed_apply, alike, same]

theorem InstanceUpdate.Alike.untimed_again {u u' : InstanceUpdate} (alike : u.Alike u')
    (item : InstanceItem) : (u'.apply (u.apply item)).untimed = (u.apply item).untimed := by
  rw [untimed_apply u', untimed_apply u, ← alike, InstanceUpdate.apply_apply]

theorem untimed_getD {row row' : Option InstanceItem}
    (rows : row.map InstanceItem.untimed = row'.map InstanceItem.untimed) :
    (row.getD {}).untimed = (row'.getD {}).untimed := by
  cases row <;> cases row' <;> simp_all

theorem untimed_read {item item' : InstanceItem} {inst : Instance}
    (same : item.untimed = item'.untimed) (read : instanceFromItem id item = .ok inst) :
    ∃ inst', instanceFromItem id item' = .ok inst' := by
  rw [instanceFromItem_isOk]
  have present := instanceFromItem_isOk.mp ⟨inst, read⟩
  simp only [InstanceItem.untimed, InstanceItem.mk.injEq] at same
  obtain ⟨service, plan, state, -, -, created, updated, -⟩ := same
  have created' := congrArg Option.isSome created
  have updated' := congrArg Option.isSome updated
  rw [Option.isSome_map, Option.isSome_map] at created' updated'
  rwa [service, plan, state, created', updated'] at present

theorem bound_untimed (id bid : String) (draws draws' : Draws) {item item' : BindingItem}
    (same : item.untimed = item'.untimed) :
    ((bound draws id bid).apply item).untimed = ((bound draws' id bid).apply item').untimed := by
  simp only [BindingItem.untimed, BindingItem.mk.injEq] at same
  obtain ⟨service, plan, -, -, parameters, created, -⟩ := same
  simp [BindingUpdate.apply, BindingItem.untimed, bound, service, plan, parameters, created]

theorem bound_again (draws draws' : Draws) (item : BindingItem) :
    ((bound draws' id bid).apply ((bound draws id bid).apply item)).untimed =
      ((bound draws id bid).apply item).untimed := rfl

theorem untimedBinding_getD {row row' : Option BindingItem}
    (rows : row.map BindingItem.untimed = row'.map BindingItem.untimed) :
    (row.getD {}).untimed = (row'.getD {}).untimed := by
  cases row <;> cases row' <;> simp_all

/-! ## Handling a message twice -/

theorem Aws.Same.published (same : w.Same w') {u u' : InstanceUpdate} (alike : u.Alike u')
    (document : Value) :
    (w.published settings id document u).Same (w'.published settings id document u') := by
  refine (same.update_row ?_ id).update_artifact (some document) (settings.artifactKey id)
  exact congrArg some (alike.untimed (untimed_getD (same.instances id)))

theorem Aws.published_again {u u' : InstanceUpdate} (alike : u.Alike u') (document : Value) :
    ((w.published settings id document u).published settings id document u').Same
      (w.published settings id document u) := by
  refine ⟨fun id' => ?_, fun _ => rfl, Function.update_idem _ _ _⟩
  by_cases here : id' = id
  · subst here
    simp [Aws.published, alike.untimed_again]
  · simp [Aws.published, here]

structure Payload.Repeatable (settings : Settings) (queue : QueueName) (p : Payload) : Prop where
  congr : ∀ {w w' : Aws} {draws draws' : Draws} {receipt receipt' : ExecutionName}, w.Same w' →
    (w.handle settings queue draws ⟨receipt, .object p⟩).Same
      (w'.handle settings queue draws' ⟨receipt', .object p⟩)
  idem : ∀ (w : Aws) (draws draws' : Draws) (receipt receipt' : ExecutionName),
    ((w.handle settings queue draws ⟨receipt, .object p⟩).handle settings queue draws'
      ⟨receipt', .object p⟩).Same (w.handle settings queue draws ⟨receipt, .object p⟩)

variable {queue : QueueName}

theorem repeatable_provision (settings : Settings) (id : String) (payload : ProvisionRequest) :
    (Payload.provision id payload).Repeatable settings queue := by
  by_cases renders : Renders id payload.serviceId payload.planId payload.parameters
  · obtain ⟨document, rendered⟩ := renders_iff.mp renders
    have alike (now now' : String) :
      (provisioned settings now id).Alike (provisioned settings now' id) := rfl
    constructor
    · intro w w' draws draws' receipt receipt' same
      rw [handle_provision rendered, handle_provision rendered]
      exact (same.published (alike _ _) document).acknowledged
    · intro w draws draws' receipt receipt'
      rw [handle_provision rendered, handle_provision rendered]
      have again : ((w.published settings id document _).published settings id document _).Same _ :=
        Aws.published_again (alike draws.now draws'.now) document
      exact ⟨again.instances, again.bindings, again.bucket⟩
  · constructor
    · intro w w' draws draws' receipt receipt' same
      rwa [handle_provision_fails renders, handle_provision_fails renders]
    · intro w draws draws' receipt receipt'
      rw [handle_provision_fails renders, handle_provision_fails renders]
      exact .refl w

section Update
variable {service plan : String} {parameters : Dict}

theorem updated_alike (settings : Settings) (now now' id plan : String) (parameters : Dict) :
    (updated settings now id plan parameters).Alike
      (updated settings now' id plan parameters) := rfl

theorem handle_update_congr (same : w.Same w') (draws draws' : Draws)
    (receipt receipt' : ExecutionName) :
    (w.handle settings queue draws ⟨receipt, .object (.update id service plan parameters)⟩).Same
      (w'.handle settings queue draws'
        ⟨receipt', .object (.update id service plan parameters)⟩) := by
  have rows := same.instances id
  cases row : w.instances id with
  | none =>
      have row' : w'.instances id = none := by simpa [row] using rows.symm
      rw [handle_update_absent row, handle_update_absent row']
      exact same.acknowledged
  | some item =>
      obtain ⟨item', row', untimed⟩ : ∃ item', w'.instances id = some item' ∧
          item'.untimed = item.untimed := by
        simpa [row] using rows.symm
      by_cases renders : Renders id service plan parameters
      · obtain ⟨document, rendered⟩ := renders_iff.mp renders
        cases read : instanceFromItem id item with
        | ok inst =>
            obtain ⟨inst', read'⟩ := untimed_read untimed.symm read
            rw [handle_update row read rendered, handle_update row' read' rendered]
            exact (same.published (updated_alike settings _ _ id plan parameters)
              document).acknowledged
        | error e =>
            cases read' : instanceFromItem id item' with
            | ok inst' =>
                obtain ⟨inst, read''⟩ := untimed_read untimed read'
                cases read.symm.trans read''
            | error e' =>
                rwa [handle_update_unreadable row read, handle_update_unreadable row' read']
      · rwa [handle_update_fails row renders, handle_update_fails row' renders]

theorem handle_update_again (w : Aws) (draws draws' : Draws) (receipt receipt' : ExecutionName) :
    ((w.handle settings queue draws
      ⟨receipt, .object (.update id service plan parameters)⟩).handle settings queue draws'
        ⟨receipt', .object (.update id service plan parameters)⟩).Same
      (w.handle settings queue draws
        ⟨receipt, .object (.update id service plan parameters)⟩) := by
  cases row : w.instances id with
  | none =>
      rw [handle_update_absent row, handle_update_absent (w := w.acknowledged _ _) row]
      exact ⟨fun _ => rfl, fun _ => rfl, rfl⟩
  | some item =>
      by_cases renders : Renders id service plan parameters
      · obtain ⟨document, rendered⟩ := renders_iff.mp renders
        cases read : instanceFromItem id item with
        | ok inst =>
            have row' : ((w.published settings id document
                (updated settings draws.now id plan parameters)).acknowledged queue
                  receipt).instances id =
                some ((updated settings draws.now id plan parameters).apply item) := by
              simp [Aws.acknowledged, Aws.published, row]
            rw [handle_update row read rendered,
              handle_update row' (instanceFromItem_apply read _) rendered]
            have again : ((w.published settings id document _).published settings id document
                _).Same _ :=
              Aws.published_again (updated_alike settings draws.now draws'.now id plan parameters)
                document
            exact ⟨again.instances, again.bindings, again.bucket⟩
        | error e =>
            rw [handle_update_unreadable row read, handle_update_unreadable row read]
            exact .refl w
      · rw [handle_update_fails row renders, handle_update_fails row renders]
        exact .refl w

theorem repeatable_update (settings : Settings) (id service plan : String) (parameters : Dict) :
    (Payload.update id service plan parameters).Repeatable settings queue :=
  ⟨fun same => handle_update_congr same _ _ _ _, handle_update_again⟩

end Update

theorem repeatable_deprovision (settings : Settings) (id : String) :
    (Payload.deprovision id).Repeatable settings queue := by
  constructor
  · intro w w' draws draws' receipt receipt' same
    rw [handle_deprovision, handle_deprovision]
    have noRow := same.update_row (Eq.refl (Option.map InstanceItem.untimed none)) id
    have removed := noRow.update_artifact none (settings.artifactKey id)
    exact ⟨removed.instances, removed.bindings, removed.bucket⟩
  · intro w draws draws' receipt receipt'
    rw [handle_deprovision, handle_deprovision]
    refine ⟨?_, fun _ => rfl, ?_⟩
    · simp [Aws.acknowledged, Aws.removed]
    · simp [Aws.acknowledged, Aws.removed]

theorem repeatable_bind (settings : Settings) (id bid : String) (payload : BindRequest) :
    (Payload.bind id bid payload).Repeatable settings queue := by
  constructor
  · intro w w' draws draws' receipt receipt' same
    rw [handle_bind, handle_bind]
    have row := bound_untimed id bid draws draws' (untimedBinding_getD (same.bindings (bid, id)))
    refine Aws.Same.acknowledged (same.update_binding ?_ (bid, id))
    exact congrArg some row
  · intro w draws draws' receipt receipt'
    rw [handle_bind, handle_bind]
    refine ⟨fun _ => rfl, fun key => ?_, rfl⟩
    by_cases here : key = (bid, id)
    · subst here
      simp [Aws.acknowledged, Aws.completed, bound_again]
    · simp [Aws.acknowledged, Aws.completed, here]

theorem repeatable_unbind (settings : Settings) (id bid : String) :
    (Payload.unbind id bid).Repeatable settings queue := by
  constructor
  · intro w w' draws draws' receipt receipt' same
    rw [handle_unbind, handle_unbind]
    exact same.acknowledged
  · intro w draws draws' receipt receipt'
    rw [handle_unbind, handle_unbind]
    exact ⟨fun _ => rfl, fun _ => rfl, rfl⟩

/-! ## Draining -/

def Aws.Only (w : Aws) (queue : QueueName) (p : Payload) : Prop :=
  ∀ queue' m, m ∈ w.tasks queue' → queue' = queue ∧ m.body = .object p

theorem handle_tasks {settings : Settings} {draws : Draws} {receipt : ExecutionName} {p : Payload} :
    (w.handle settings queue draws ⟨receipt, .object p⟩).tasks = w.tasks := by
  refine CallTree.run_keeps (I := fun w' : Aws => w'.tasks = w.tasks) _ (calls_handle draws) ?_ rfl
  intro c w' c_in same
  rw [← same]
  funext queue'
  cases c_in <;> cases queue' <;> rfl

theorem setTasks_same {rest : List Message} : (w.setTasks queue rest).Same w := by
  cases queue <;> exact ⟨fun _ => rfl, fun _ => rfl, rfl⟩

theorem Aws.Only.rest {p : Payload} {m : Message} {rest : List Message} (only : w.Only queue p)
    (head : w.tasks queue = m :: rest) : (w.setTasks queue rest).Only queue p := by
  intro queue' m' member
  refine only queue' m' ?_
  cases queue <;> cases queue' <;> simp_all [Aws.setTasks, Aws.tasks]

theorem drained_again {p : Payload} (repeatable : p.Repeatable settings queue) {draws : Draws}
    {receipt : ExecutionName} {s s' : Aws} (only : s.Only queue p)
    (same : s.Same (w.handle settings queue draws ⟨receipt, .object p⟩))
    (drained : Aws.Drained settings s s') :
    s'.Same (w.handle settings queue draws ⟨receipt, .object p⟩) := by
  induction drained with
  | empty => exact same
  | @work s s' queue' draws' message rest head drained ih =>
      -- one more copy is handled, which leaves the state the same up to times and passwords
      obtain ⟨rfl, body⟩ := only queue' message (by simp [head])
      obtain ⟨receipt', _⟩ := message
      subst body
      refine ih ?_ ?_
      · intro queue'' m member
        rw [handle_tasks] at member
        exact only.rest head queue'' m member
      · exact (repeatable.congr (setTasks_same.trans same)).trans
          (repeatable.idem w draws draws receipt receipt)

theorem drained_once {p : Payload} (repeatable : p.Repeatable settings queue) (draws : Draws)
    (receipt : ExecutionName) {s s' : Aws} (waiting : s.tasks queue ≠ []) (only : s.Only queue p)
    (same : s.Same w) (drained : Aws.Drained settings s s') :
    s'.Same (w.handle settings queue draws ⟨receipt, .object p⟩) := by
  cases drained with
  | empty provision binding => cases queue <;> contradiction
  | @work _ _ queue' draws' message rest head drained =>
      obtain ⟨rfl, body⟩ := only queue' message (by simp [head])
      obtain ⟨receipt', _⟩ := message
      subst body
      refine drained_again repeatable ?_ (repeatable.congr (setTasks_same.trans same)) drained
      intro queue'' m member
      rw [handle_tasks] at member
      exact only.rest head queue'' m member

theorem same_of_drained {p : Payload} (repeatable : p.Repeatable settings queue) {s t s' t' : Aws}
    (waiting : s.tasks queue ≠ [] ∧ s.Only queue p) (waiting' : t.tasks queue ≠ [] ∧ t.Only queue p)
    (same : s.Same t) (drained : Aws.Drained settings s s') (drained' : Aws.Drained settings t t') :
    s'.Same t' :=
  (drained_once repeatable ⟨"", ""⟩ ⟨"", 0⟩ waiting.1 waiting.2 same drained).trans
    (drained_once repeatable ⟨"", ""⟩ ⟨"", 0⟩ waiting'.1 waiting'.2 (.refl t) drained').symm

end Regnant.Osb
