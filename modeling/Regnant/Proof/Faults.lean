import Regnant.Osb.Faults
import Regnant.Proof.Rejection
import Regnant.Proof.View

namespace Regnant.Osb
open CallTree

variable {settings : Settings} {self receipt : ExecutionName} {now id : String} {draws : Draws}
  {queue : QueueName} {w w' : Aws} {payload : Payload} {asked : Request} {fault : Option Fault}

@[simp] theorem spares_none (n : Nat) : Spares none n :=
  fun _ none => by cases none

@[simp] theorem spares_some {f : Fault} {n : Nat} : Spares (some f) n ↔ n < f.calls := by
  simp [Spares]

theorem execute_keeps {α : Type} {P : Call → Prop} {I : Aws → Prop} {t : Handler α}
    (calls : t.Calls P) (keeps : ∀ c w, P c → I w → I (perform self c w).2) (start : I w) :
    I (w.execute self fault t).2 := by
  cases fault with
  | none => exact run_keeps _ calls keeps start
  | some fault => exact runCut_keeps _ calls keeps start

/-! ## Requests -/

theorem answerWith_snd :
    (w.answerWith fault self now asked).2 = (w.execute self fault (app now asked)).2 := by
  unfold Aws.answerWith
  split <;> simp [*]

@[simp] theorem answerWith_none : w.answerWith none self now asked = w.answer self now asked := rfl

theorem perform_harmless {c : Call} (harmless : c.Harmless (perform self c w).1) :
    (perform self c w).2 = w := by
  cases c with
  | getInstance => rfl
  | getBinding => rfl
  | putInstance id item =>
      cases row : w.instances id with
      | none => simp [perform, row, Call.Harmless] at harmless
      | some item' => simp [perform, row]
  | putBinding bid id item =>
      cases row : w.bindings (bid, id) with
      | none => simp [perform, row, Call.Harmless] at harmless
      | some item' => simp [perform, row]
  | _ => exact harmless.elim

theorem perform_cut_harmless {c : Call} (harmless : c.Harmless (.error .clientError)) :
    (perform self c w).2 = w := by
  cases c with
  | getInstance => rfl
  | getBinding => rfl
  | putInstance => cases harmless
  | putBinding => cases harmless
  | _ => exact harmless.elim

theorem rejected_unwritten (rejected : (w.answerWith fault self now asked).1.isOsbError) :
    (w.answerWith fault self now asked).2 = w := by
  rw [answerWith_snd]
  have replies (c : Call) (w : Aws) : c.Replies (perform self c w).1 :=
    Outcome.ok.replies self c w
  unfold Aws.answerWith at rejected
  split at rejected
  next response w' ran =>
    have ran' : (w.execute self fault (app now asked)).1 = .ok response := by rw [ran]
    have unwritten : ¬response.isOsbError ∨ (w.execute self fault (app now asked)).2 = w := by
      cases fault with
      | none =>
          exact (checked_app now asked).run _ replies (fun c w => perform_harmless) ran'
      | some fault =>
          exact (checked_app now asked).runCut _ replies (fun c e => by simp)
            (fun c w => perform_harmless) (fun c w => perform_cut_harmless) ran'
    exact unwritten.resolve_left fun accepts => accepts rejected
  next e w' ran =>
    obtain ⟨_, _, same⟩ := rejected
    cases same

theorem perform_row_of_ne {c : Call} (c_in : asked.Footprint c) (other : asked.instanceId ≠ id) :
    (perform self c w).2.instances id = w.instances id ∧
      (perform self c w).2.bucket = w.bucket := by
  have other : id ≠ asked.instanceId := other.symm
  cases c_in with
  | putInstance item =>
      simp only [perform]
      split
      next => exact ⟨rfl, rfl⟩
      next => exact ⟨Function.update_of_ne other _ _, rfl⟩
  | queueUpdate u => exact ⟨Function.update_of_ne other _ _, rfl⟩
  | queueDeprovision u => exact ⟨Function.update_of_ne other _ _, rfl⟩
  | bindPut item =>
      simp only [perform]
      split <;> exact ⟨rfl, rfl⟩
  | _ => exact ⟨rfl, rfl⟩

variable (fault) in
theorem answerWith_other (other : ¬(asked.instanceId = id ∧ asked.MutatesInstance)) :
    (w.answerWith fault self now asked).2.instances id = w.instances id ∧
      (w.answerWith fault self now asked).2.bucket = w.bucket := by
  rw [answerWith_snd]
  by_cases own : asked.instanceId = id
  · have same : w.SameInstances (w.execute self fault (app now asked)).2 :=
      execute_keeps ((calls_app now asked).mono fun _ c_in =>
        c_in.onBindings fun mutates => other ⟨own, mutates⟩)
        (fun _ _ on same => same.perform on) ⟨rfl, rfl, rfl⟩
    exact ⟨congrFun same.instances id, same.bucket⟩
  · refine execute_keeps (I := fun w' => w'.instances id = w.instances id ∧ w'.bucket = w.bucket)
      (calls_app now asked) (fun c w' c_in same => ?_) ⟨rfl, rfl⟩
    have ⟨row, bucket⟩ : (perform self c w').2.instances id = w'.instances id ∧
        (perform self c w').2.bucket = w'.bucket := perform_row_of_ne c_in own
    exact ⟨row.trans same.1, bucket.trans same.2⟩

theorem Aws.Sorted.answerWith (sorted : w.Sorted) :
    (w.answerWith fault self now asked).2.Sorted := by
  rw [answerWith_snd]
  exact execute_keeps (calls_app now asked) (fun _ _ c_in sorted => sorted.perform_request c_in)
    sorted

/-! ## Handlings -/

theorem Aws.Sorted.handleWith (sorted : w.Sorted) :
    (w.handleWith settings queue draws fault ⟨receipt, .object payload⟩).Sorted :=
  execute_keeps (calls_handle draws) (fun _ _ c_in sorted => sorted.perform_payload c_in) sorted

@[simp] theorem handleWith_none {message : Message} :
    w.handleWith settings queue draws none message = w.handle settings queue draws message := rfl

theorem handleWith_binding (task : payload.IsBindingTask) :
    w.SameInstances (w.handleWith settings queue draws fault ⟨receipt, .object payload⟩) :=
  execute_keeps ((calls_handle draws).mono fun _ c_in => c_in.onBindings task)
    (fun _ _ on same => same.perform on) ⟨rfl, rfl, rfl⟩

/-- The number of the handler's call that writes or deletes the artifact. The next one writes or
deletes the row. -/
def Payload.artifactCall (payload : Payload) : Nat :=
  if payload.op = some .update then 1 else 0

structure Partly (settings : Settings) (fault : Option Fault) (w : Aws) (p : Payload)
    (whole w' : Aws) : Prop where
  instances : w'.instances = (if Spares fault (p.artifactCall + 1) then whole else w).instances
  bucket : w'.bucket = (if Spares fault p.artifactCall then whole else w).bucket

theorem partly_same (p : Payload) (fault : Option Fault)
    (whole : w'.instances = w.instances ∧ w'.bucket = w.bucket) {w'' : Aws}
    (partly : w''.instances = w.instances ∧ w''.bucket = w.bucket) :
    Partly settings fault w p w' w'' := by
  refine ⟨partly.1.trans ?_, partly.2.trans ?_⟩
  · split
    · exact whole.1.symm
    · rfl
  · split
    · exact whole.2.symm
    · rfl

theorem partly_provision {request : ProvisionRequest} (f : Fault) :
    Partly settings (some f) w (.provision id request)
      (w.handle settings queue draws ⟨receipt, .object (.provision id request)⟩)
      (w.handleWith settings queue draws (some f) ⟨receipt, .object (.provision id request)⟩) := by
  obtain ⟨n, effect⟩ := f
  cases rendered :
      renderResources id request.serviceId request.planId request.parameters with
  | ok document =>
      rw [handle_provision rendered]
      rcases n with _ | _ | _ | n <;> cases effect <;> constructor <;>
        simp [Aws.handleWith, Aws.execute, Worker.handle, Worker.dispatch, Payload.provision,
          Worker.provision, Worker.subscript, require, rendered, ArtifactStore.write,
          InstanceStore.transition, TaskQueue.delete, CallTree.invoke, perform, Fault.calls,
          Payload.artifactCall, Aws.published, Aws.acknowledged, provisioned]
  | error e =>
      have fails : ¬Renders id request.serviceId request.planId request.parameters := by
        rw [renders_iff]
        rintro ⟨document, rendered'⟩
        cases rendered.symm.trans rendered'
      rw [handle_provision_fails fails]
      refine partly_same _ _ ⟨rfl, rfl⟩ ?_
      simp [Aws.handleWith, Aws.execute, Worker.handle, Worker.dispatch, Payload.provision,
        Worker.provision, Worker.subscript, require, rendered]

theorem partly_update {service plan : String} {parameters : Dict} (f : Fault) :
    Partly settings (some f) w (.update id service plan parameters)
      (w.handle settings queue draws ⟨receipt, .object (.update id service plan parameters)⟩)
      (w.handleWith settings queue draws (some f)
        ⟨receipt, .object (.update id service plan parameters)⟩) := by
  obtain ⟨n, effect⟩ := f
  cases row : w.instances id with
  | none =>
      rw [handle_update_absent row]
      apply partly_same
      · exact ⟨rfl, rfl⟩
      rcases n with _ | _ | n <;> cases effect <;>
        simp [Aws.handleWith, Aws.execute, Worker.handle, Worker.dispatch, Payload.update,
          Worker.update, Worker.subscript, require, InstanceStore.get, TaskQueue.delete,
          CallTree.invoke, perform, row, osbError]
  | some item =>
      cases read : instanceFromItem id item with
      | error e =>
          obtain ⟨key, rfl⟩ := instanceFromItem_error read
          rw [handle_update_unreadable row read]
          refine partly_same _ _ ⟨rfl, rfl⟩ ?_
          rcases n with _ | n <;> cases effect <;>
            simp [Aws.handleWith, Aws.execute, Worker.handle, Worker.dispatch, Payload.update,
              Worker.update, Worker.subscript, require, InstanceStore.get, CallTree.invoke,
              perform, row, read]
      | ok inst =>
          cases rendered : renderResources id service plan parameters with
          | ok document =>
              rw [handle_update row read rendered]
              rcases n with _ | _ | _ | _ | n <;> cases effect <;> constructor <;>
                simp [Aws.handleWith, Aws.execute, Worker.handle, Worker.dispatch, Payload.update,
                  Worker.update, Worker.subscript, require, InstanceStore.get, row, read, rendered,
                  ArtifactStore.write, InstanceStore.transition, TaskQueue.delete, CallTree.invoke,
                  perform, Fault.calls, Payload.artifactCall, Aws.published, Aws.acknowledged,
                  updated]
          | error e =>
              have fails : ¬Renders id service plan parameters := by
                rw [renders_iff]
                rintro ⟨document, rendered'⟩
                cases rendered.symm.trans rendered'
              rw [handle_update_fails row fails]
              refine partly_same _ _ ⟨rfl, rfl⟩ ?_
              rcases n with _ | n <;> cases effect <;>
                simp [Aws.handleWith, Aws.execute, Worker.handle, Worker.dispatch, Payload.update,
                  Worker.update, Worker.subscript, require, InstanceStore.get, CallTree.invoke,
                  perform, row, read, rendered]

theorem partly_deprovision (f : Fault) :
    Partly settings (some f) w (.deprovision id)
      (w.handle settings queue draws ⟨receipt, .object (.deprovision id)⟩)
      (w.handleWith settings queue draws (some f) ⟨receipt, .object (.deprovision id)⟩) := by
  obtain ⟨n, effect⟩ := f
  rw [handle_deprovision]
  rcases n with _ | _ | _ | n <;> cases effect <;> constructor <;>
    simp [Aws.handleWith, Aws.execute, Worker.handle, Worker.dispatch, Payload.deprovision,
      Worker.deprovision, Worker.subscript, require, ArtifactStore.delete, InstanceStore.delete,
      TaskQueue.delete, CallTree.invoke, perform, Fault.calls, Payload.artifactCall, Aws.removed,
      Aws.acknowledged]

variable (settings w) in
theorem partly_handled (task : payload.IsInstanceTask) (receipt : ExecutionName) (draws : Draws)
    (fault : Option Fault) :
    Partly settings fault w payload
      (w.handle settings .provision draws ⟨receipt, .object payload⟩)
      (w.handleWith settings .provision draws fault ⟨receipt, .object payload⟩) := by
  cases fault with
  | none => constructor <;> simp
  | some f =>
      cases task with
      | provision id request => exact partly_provision f
      | update id service plan parameters => exact partly_update f
      | deprovision id => exact partly_deprovision f

theorem handleWith_other (about : payload.instanceId ≠ some id) (task : payload.IsInstanceTask) :
    let w' := w.handleWith settings .provision draws fault ⟨receipt, .object payload⟩
    w'.instances id = w.instances id ∧
      w'.bucket (settings.artifactKey id) = w.bucket (settings.artifactKey id) := by
  intro w'
  have whole : Handled settings draws.now receipt w payload _ := handled task
  obtain ⟨row, artifact⟩ := handled_other about whole
  obtain ⟨rows, artifacts⟩ : Partly settings fault w payload _ w' :=
    partly_handled settings w task receipt draws fault
  rw [rows, artifacts]
  constructor
  · split
    · exact row
    · rfl
  · split
    · exact artifact
    · rfl

end Regnant.Osb
