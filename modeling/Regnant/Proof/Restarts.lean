import Regnant.Proof.Transitions

namespace Regnant.Osb
open Function (update)

def InstanceItem.unstamped (item : InstanceItem) : InstanceItem :=
  { item with updatedAt := item.updatedAt.map fun _ => "" }

/-- Equal tables and buckets, up to `updated_at`. -/
structure Aws.Resembles (w w' : Aws) : Prop where
  instances : ∀ id, (w.instances id).map InstanceItem.unstamped =
    (w'.instances id).map InstanceItem.unstamped
  bindings : w.bindings = w'.bindings
  bucket : w.bucket = w'.bucket

def Aws.dispatched (w : Aws) (settings : Settings) (receipt : ExecutionName) (payload : Payload)
    (draws : Draws) : Except Exn Unit × Aws :=
  (Worker.dispatch settings draws payload).run (perform receipt) w

def Aws.killed (settings : Settings) (receipt : ExecutionName) (payload : Payload) (w : Aws)
    (kill : Nat × Draws) : Aws :=
  (Worker.dispatch settings kill.2 payload).killed (perform receipt) kill.1 w

def SameEnd (x y : Except Exn Unit × Aws) : Prop :=
  x.1 = y.1 ∧ x.2.Resembles y.2

variable {settings : Settings} {receipt : ExecutionName} {payload : Payload} {w w' w'' : Aws}
  {id : String}

theorem Aws.Resembles.refl (w : Aws) : w.Resembles w :=
  ⟨fun _ => rfl, rfl, rfl⟩

theorem Aws.Resembles.trans (h : w.Resembles w') (h' : w'.Resembles w'') : w.Resembles w'' :=
  ⟨fun id => (h.instances id).trans (h'.instances id), h.bindings.trans h'.bindings,
    h.bucket.trans h'.bucket⟩

theorem SameEnd.trans (x y z : Except Exn Unit × Aws) (h : SameEnd x y) (h' : SameEnd y z) :
    SameEnd x z :=
  ⟨h.1.trans h'.1, h.2.trans h'.2⟩

def Aws.stored (w : Aws) (settings : Settings) (id : String) (document : Value) : Aws :=
  { w with bucket := update w.bucket (settings.artifactKey id) (some document) }

theorem dispatched_provision {payload : ProvisionRequest} {document : Value}
    (rendered : renderResources id payload.serviceId payload.planId payload.parameters =
      .ok document) (draws : Draws) :
    w.dispatched settings receipt (.provision id payload) draws =
      (.ok (), w.published settings id document (provisioned settings draws.now id)) := by
  simp [Aws.dispatched, Worker.dispatch, Payload.provision, Worker.provision, Worker.subscript,
    require, rendered, ArtifactStore.write, InstanceStore.transition, perform, Aws.published,
    provisioned]

theorem killed_provision {payload : ProvisionRequest} {document : Value}
    (rendered : renderResources id payload.serviceId payload.planId payload.parameters =
      .ok document) (n : Nat) (draws : Draws) :
    w.killed settings receipt (.provision id payload) (n, draws) ∈
      [w, w.stored settings id document,
        w.published settings id document (provisioned settings draws.now id)] := by
  rcases n with _ | _ | n <;>
    simp [Aws.killed, Worker.dispatch, Payload.provision, Worker.provision, Worker.subscript,
      require, rendered, ArtifactStore.write, InstanceStore.transition, CallTree.invoke, perform,
      Aws.published, Aws.stored, provisioned]

theorem dispatched_update {service plan : String} {parameters : Dict} {item : InstanceItem}
    {inst : Instance} {document : Value} (present : w.instances id = some item)
    (read : instanceFromItem id item = .ok inst)
    (rendered : renderResources id service plan parameters = .ok document) (draws : Draws) :
    w.dispatched settings receipt (.update id service plan parameters) draws =
      (.ok (), w.published settings id document
        (updated settings draws.now id plan parameters)) := by
  simp [Aws.dispatched, Worker.dispatch, Payload.update, Worker.update, Worker.subscript, require,
    run_get_some present, read, rendered, ArtifactStore.write, InstanceStore.transition, perform,
    Aws.published, updated]

theorem killed_update {service plan : String} {parameters : Dict} {item : InstanceItem}
    {inst : Instance} {document : Value} (present : w.instances id = some item)
    (read : instanceFromItem id item = .ok inst)
    (rendered : renderResources id service plan parameters = .ok document) (n : Nat)
    (draws : Draws) :
    w.killed settings receipt (.update id service plan parameters) (n, draws) ∈
      [w, w.stored settings id document,
        w.published settings id document (updated settings draws.now id plan parameters)] := by
  rcases n with _ | _ | _ | n <;>
    simp [Aws.killed, Worker.dispatch, Payload.update, Worker.update, Worker.subscript, require,
      InstanceStore.get, present, read, rendered, ArtifactStore.write, InstanceStore.transition,
      CallTree.invoke, perform, Aws.published, Aws.stored, updated]

theorem dispatched_deprovision (draws : Draws) :
    w.dispatched settings receipt (.deprovision id) draws = (.ok (), w.removed settings id) := by
  simp [Aws.dispatched, Worker.dispatch, Payload.deprovision, Worker.deprovision, Worker.subscript,
    require, ArtifactStore.delete, InstanceStore.delete, perform, Aws.removed]

theorem killed_deprovision (n : Nat) (draws : Draws) :
    w.killed settings receipt (.deprovision id) (n, draws) ∈
      [w, { w with bucket := update w.bucket (settings.artifactKey id) none },
        w.removed settings id] := by
  rcases n with _ | _ | n <;>
    simp [Aws.killed, Worker.dispatch, Payload.deprovision, Worker.deprovision, Worker.subscript,
      require, ArtifactStore.delete, InstanceStore.delete, CallTree.invoke, perform, Aws.removed]

structure Aws.Unwritten (w : Aws) (settings : Settings) (receipt : ExecutionName)
    (payload : Payload) (result : Except Exn Unit) : Prop where
  dispatched : ∀ draws, w.dispatched settings receipt payload draws = (result, w)
  killed : ∀ kill, w.killed settings receipt payload kill = w

theorem unwritten_provision {payload : ProvisionRequest} {e : Exn}
    (fails : renderResources id payload.serviceId payload.planId payload.parameters = .error e) :
    w.Unwritten settings receipt (.provision id payload) (.error e) := by
  refine ⟨fun draws => ?_, fun kill => ?_⟩
  all_goals simp [Aws.dispatched, Aws.killed, Worker.dispatch, Payload.provision, Worker.provision,
    Worker.subscript, require, fails]

theorem unwritten_update_absent {service plan : String} {parameters : Dict}
    (absent : w.instances id = none) :
    w.Unwritten settings receipt (.update id service plan parameters) (.ok ()) := by
  refine ⟨fun draws => ?_, fun (n, draws) => ?_⟩
  · simp [Aws.dispatched, Worker.dispatch, Payload.update, Worker.update, Worker.subscript, require,
      run_get_none absent]
  · cases n <;> simp [Aws.killed, Worker.dispatch, Payload.update, Worker.update, Worker.subscript,
      require, InstanceStore.get, CallTree.invoke, perform, absent, osbError]

theorem unwritten_update_unreadable {service plan : String} {parameters : Dict}
    {item : InstanceItem} {e : Exn} (present : w.instances id = some item)
    (unreadable : instanceFromItem id item = .error e) :
    w.Unwritten settings receipt (.update id service plan parameters) (.error e) := by
  obtain ⟨key, rfl⟩ := instanceFromItem_error unreadable
  refine ⟨fun draws => ?_, fun (n, draws) => ?_⟩
  · simp [Aws.dispatched, Worker.dispatch, Payload.update, Worker.update, Worker.subscript, require,
      run_get_some present, unreadable]
  · cases n <;> simp [Aws.killed, Worker.dispatch, Payload.update, Worker.update, Worker.subscript,
      require, InstanceStore.get, CallTree.invoke, perform, present, unreadable]

theorem unwritten_update_fails {service plan : String} {parameters : Dict} {item : InstanceItem}
    {inst : Instance} {e : Exn} (present : w.instances id = some item)
    (read : instanceFromItem id item = .ok inst)
    (fails : renderResources id service plan parameters = .error e) :
    w.Unwritten settings receipt (.update id service plan parameters) (.error e) := by
  refine ⟨fun draws => ?_, fun (n, draws) => ?_⟩
  · simp [Aws.dispatched, Worker.dispatch, Payload.update, Worker.update, Worker.subscript, require,
      run_get_some present, read, fails]
  · cases n <;> simp [Aws.killed, Worker.dispatch, Payload.update, Worker.update, Worker.subscript,
      require, InstanceStore.get, CallTree.invoke, perform, present, read, fails]

theorem resembles_published {w' : Aws} {document : Value} {u : String → InstanceUpdate}
    (stamped : ∀ now, u now = { u "" with updatedAt := now }) {now now' now'' : String}
    (killed : w' ∈ [w, w.stored settings id document, w.published settings id document (u now)]) :
    (w'.published settings id document (u now')).Resembles
      (w.published settings id document (u now'')) := by
  rw [stamped now', stamped now'']
  rw [stamped now] at killed
  simp only [List.mem_cons, List.not_mem_nil, or_false] at killed
  rcases killed with rfl | rfl | rfl
  all_goals
    refine ⟨fun id' => ?_, rfl, by simp [Aws.published, Aws.stored]⟩
    by_cases same : id' = id
    · subst same
      simp [Aws.published, Aws.stored, InstanceItem.unstamped, InstanceUpdate.apply,
        ← Option.or_assoc]
    · simp [Aws.published, Aws.stored, same]

theorem sameEnd_published {u : String → InstanceUpdate} {document : Value}
    (stamped : ∀ now, u now = { u "" with updatedAt := now })
    (kills : ∀ n draws, w.killed settings receipt payload (n, draws) ∈
      [w, w.stored settings id document, w.published settings id document (u draws.now)])
    (ends : ∀ w' now, w' ∈ [w, w.stored settings id document,
        w.published settings id document (u now)] →
      ∀ draws, w'.dispatched settings receipt payload draws =
        (.ok (), w'.published settings id document (u draws.now)))
    (n : Nat) (draws draws' draws'' : Draws) :
    SameEnd ((w.killed settings receipt payload (n, draws)).dispatched settings receipt payload
        draws'')
      (w.dispatched settings receipt payload draws') := by
  have killed := kills n draws
  rw [ends _ _ killed, ends w "" List.mem_cons_self]
  exact ⟨rfl, resembles_published stamped killed⟩

theorem sameEnd_unwritten {result : Except Exn Unit}
    (unwritten : w.Unwritten settings receipt payload result) (n : Nat)
    (draws draws' draws'' : Draws) :
    SameEnd ((w.killed settings receipt payload (n, draws)).dispatched settings receipt payload
        draws'')
      (w.dispatched settings receipt payload draws') := by
  rw [unwritten.killed, unwritten.dispatched, unwritten.dispatched]
  exact ⟨rfl, .refl w⟩

theorem read_killed {item : InstanceItem} {inst : Instance} {document : Value} {u : InstanceUpdate}
    (present : w.instances id = some item) (read : instanceFromItem id item = .ok inst)
    (killed : w' ∈ [w, w.stored settings id document, w.published settings id document u]) :
    ∃ item' inst', w'.instances id = some item' ∧ instanceFromItem id item' = .ok inst' := by
  simp only [List.mem_cons, List.not_mem_nil, or_false] at killed
  rcases killed with rfl | rfl | rfl
  · exact ⟨item, inst, present, read⟩
  · exact ⟨item, inst, present, read⟩
  · exact ⟨_, _, by simp [Aws.published, present], instanceFromItem_apply read u⟩

theorem sameEnd_update (service plan : String) (parameters : Dict) (n : Nat)
    (draws draws' draws'' : Draws) :
    SameEnd ((w.killed settings receipt (.update id service plan parameters) (n, draws)).dispatched
        settings receipt (.update id service plan parameters) draws'')
      (w.dispatched settings receipt (.update id service plan parameters) draws') := by
  cases present : w.instances id with
  | none => exact sameEnd_unwritten (unwritten_update_absent present) n draws draws' draws''
  | some item =>
      cases read : instanceFromItem id item with
      | error e =>
          exact sameEnd_unwritten (unwritten_update_unreadable present read) n draws draws' draws''
      | ok inst =>
          cases rendered : renderResources id service plan parameters with
          | error e =>
              exact sameEnd_unwritten (unwritten_update_fails present read rendered) n draws draws'
                draws''
          | ok document =>
              refine sameEnd_published (u := fun now => updated settings now id plan parameters)
                (fun _ => rfl) (killed_update present read rendered) ?_ n draws draws' draws''
              intro w' now killed draws
              obtain ⟨item', inst', present', read'⟩ := read_killed present read killed
              exact dispatched_update present' read' rendered draws

theorem sameEnd_deprovision (n : Nat) (draws draws' draws'' : Draws) :
    SameEnd ((w.killed settings receipt (.deprovision id) (n, draws)).dispatched settings receipt
        (.deprovision id) draws'')
      (w.dispatched settings receipt (.deprovision id) draws') := by
  have killed := @killed_deprovision settings receipt w id n draws
  simp only [List.mem_cons, List.not_mem_nil, or_false] at killed
  rw [dispatched_deprovision, dispatched_deprovision]
  rcases killed with same | same | same
  all_goals
    rw [same]
    exact ⟨rfl, fun id' => by simp [Aws.removed], rfl, by simp [Aws.removed]⟩

theorem sameEnd_killed (task : payload.IsInstanceTask) (n : Nat) (draws draws' draws'' : Draws) :
    SameEnd ((w.killed settings receipt payload (n, draws)).dispatched settings receipt payload
        draws'')
      (w.dispatched settings receipt payload draws') := by
  cases task with
  | provision id payload =>
      cases rendered : renderResources id payload.serviceId payload.planId payload.parameters with
      | error e => exact sameEnd_unwritten (unwritten_provision rendered) n draws draws' draws''
      | ok document =>
          exact sameEnd_published (u := fun now => provisioned settings now id) (fun _ => rfl)
            (killed_provision rendered) (fun _ _ _ => dispatched_provision rendered) n draws draws'
            draws''
  | update id service plan parameters =>
      exact sameEnd_update service plan parameters n draws draws' draws''
  | deprovision id => exact sameEnd_deprovision n draws draws' draws''

/-- However often the handler of a message was killed, its next whole run ends as it would have
without that, with the same exception or none. -/
theorem handlers_restartable (settings : Settings) (receipt : ExecutionName) (w : Aws)
    (payload : Payload) (task : payload.IsInstanceTask) (kills : List (Nat × Draws))
    (draws draws' : Draws) :
    SameEnd
      ((kills.foldl (Aws.killed settings receipt payload) w).dispatched settings receipt payload
        draws)
      (w.dispatched settings receipt payload draws') :=
  CallTree.run_after_killed (perform receipt) (Worker.dispatch settings · payload) SameEnd.trans
    (fun n draws draws' draws'' _ => sameEnd_killed task n draws draws' draws'') kills draws draws'
    w

theorem killed_update_restarts :
    SameEnd
      (([(2, ⟨"1", "t"⟩), (1, ⟨"2", "t"⟩), (3, ⟨"3", "t"⟩)].foldl
        (Aws.killed {} ⟨"a", 1⟩ (.update "a" "s" "p" ∅))
        (Aws.empty.answer ⟨"a", 0⟩ "0" (.provision "a" ⟨"s", "p", ∅, ∅⟩ true)).2).dispatched {}
          ⟨"a", 1⟩ (.update "a" "s" "p" ∅) ⟨"4", "t"⟩)
      ((Aws.empty.answer ⟨"a", 0⟩ "0" (.provision "a" ⟨"s", "p", ∅, ∅⟩ true)).2.dispatched {}
        ⟨"a", 1⟩ (.update "a" "s" "p" ∅) ⟨"5", "t"⟩) :=
  handlers_restartable {} ⟨"a", 1⟩ _ (.update "a" "s" "p" ∅) (.update _ _ _ _) _ _ _

end Regnant.Osb
