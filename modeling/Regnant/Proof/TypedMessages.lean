import Regnant.Osb.Schemas
import Regnant.Proof.Survival

namespace Regnant.Osb

def Op.name : Op → String
  | .provision => "provision"
  | .update => "update"
  | .deprovision => "deprovision"
  | .bind => "bind"
  | .unbind => "unbind"
  | .unknown name => name

namespace Untyped

structure Encodes (members : Worker.Members) (payload : Payload) : Prop where
  known : ∀ name, payload.op ≠ some (.unknown name)
  op : members.lookup "op" = payload.op.map fun op => .str op.name
  instanceId : members.lookup "instance_id" = payload.instanceId.map .str
  bindingId : members.lookup "binding_id" = payload.bindingId.map .str
  serviceId : members.lookup "service_id" = payload.serviceId.map .str
  planId : members.lookup "plan_id" = payload.planId.map .str
  parameters : match payload.parameters with
    | none => members.lookup "parameters" = none
    | some parameters => ∃ items, members.lookup "parameters" = some (.dict items) ∧
        (Value.dict items).toDict = some parameters

def InstanceUpdate.typed (u : InstanceUpdate) : Osb.InstanceUpdate where
  state := u.state
  updatedAt := u.updatedAt
  description := u.description
  operation := u.operation
  artifactKey := u.artifactKey
  planId :=
    match u.planId with
    | .str planId => some planId
    | _ => none
  parameters := u.parameters.toDict
  dashboardUrl := u.dashboardUrl

def perform (self : ExecutionName) : (c : Call Value) → Aws → Except Exn c.Result × Aws
  | .getInstance (.str id), w => Osb.perform self (.getInstance id) w
  | .updateInstance (.str id) u, w => Osb.perform self (.updateInstance id u.typed) w
  | .deleteInstance (.str id), w => Osb.perform self (.deleteInstance id) w
  | .updateBinding (.str bid) (.str id) u, w => Osb.perform self (.updateBinding bid id u) w
  | .putObject key body, w => Osb.perform self (.putObject key body) w
  | .deleteObject key, w => Osb.perform self (.deleteObject key) w
  | .deleteMessage queue receipt, w => Osb.perform self (.deleteMessage queue receipt) w
  | .receiveMessage _ _ _ _, w => (.ok [], w)
  | .getInstance _, w => (.error .clientError, w)
  | .updateInstance _ _, w => (.error .clientError, w)
  | .deleteInstance _, w => (.error .clientError, w)
  | .updateBinding _ _ _, w => (.error .clientError, w)

theorem lookup_toDict {items : List (String × Value)} {d : Dict}
    (encoded : (Value.dict items).toDict = some d) (key : String) :
    items.lookup key = d.lookup key := by
  obtain rfl := Option.some.inj encoded
  rw [Finmap.dlookup_list_toFinmap]
  induction items with
  | nil => rfl
  | cons m items ih =>
      rw [List.map_cons, List.lookup_cons]
      by_cases same : key = m.1
      · subst same
        rw [List.dlookup_cons_eq, beq_self_eq_true]
      · rw [List.dlookup_cons_ne _ _ same, ← ih rfl]
        rw [beq_false_of_ne same]

structure Library.Plain (lib : Library Value) : Prop where
  str : ∀ s, lib.str (.str s) = s
  safeDump : ∀ v, lib.safeDump v = .ok v
  logs : lib.LogsText

variable {lib : Library Value} {settings : WorkerSettings} {draws : Draws}
  {messageId : Option String} {members : Worker.Members} {payload : Payload} {w : Aws}
  {receipt : ExecutionName} {id service plan : String}

theorem renderResources_typed (plain : lib.Plain) {parameters : String → Except Exn (Option Value)}
    {d : Dict} (same : ∀ key, parameters key = .ok (d.lookup key)) :
    renderResources lib (.str id) (.str service) (.str plan) parameters =
      Osb.renderResources id service plan d := by
  unfold renderResources Osb.renderResources
  simp only [same, plain.str, plain.safeDump]
  cases d.lookup "upstream" with
  | none => rfl
  | some v =>
      cases truthy : v.truthy with
      | true =>
          simp only [truthy, bind, Except.bind, if_true]
          rfl
      | false =>
          simp only [truthy, bind, Except.bind, Bool.false_eq_true, if_false]
          rfl

theorem Encodes.get_parameters (encodes : Encodes members payload) (d : Dict) (key : String) :
    (match members.lookup "parameters" with
      | some parameters => get parameters
      | none => fun key => .ok (d.lookup key)) key =
      .ok ((payload.parameters.getD d).lookup key) := by
  have parameters := encodes.parameters
  cases given : payload.parameters with
  | none =>
      rw [given] at parameters
      rw [parameters]
      rfl
  | some d' =>
      rw [given] at parameters
      obtain ⟨items, member, encoded⟩ := parameters
      rw [member]
      exact congrArg Except.ok (lookup_toDict encoded key)

theorem Encodes.toDict_parameters (encodes : Encodes members payload) :
    ((members.lookup "parameters").getD .none).toDict = payload.parameters := by
  have parameters := encodes.parameters
  cases given : payload.parameters with
  | none =>
      rw [given] at parameters
      rw [parameters]
      rfl
  | some d =>
      rw [given] at parameters
      obtain ⟨items, member, encoded⟩ := parameters
      rw [member]
      exact encoded

theorem key_typed (plain : lib.Plain) : ArtifactStore.key settings lib (.str id) =
    Settings.artifactKey ⟨settings.artifactPrefix⟩ id := by
  rw [ArtifactStore.key, plain.str, Settings.artifactKey]

theorem write_typed (plain : lib.Plain) (document : Value) :
    (ArtifactStore.write settings lib (.str id) document).run (perform receipt) w =
      (Osb.ArtifactStore.write ⟨settings.artifactPrefix⟩ id document).run (Osb.perform receipt)
        w := by
  rw [ArtifactStore.write, key_typed plain]
  rfl

theorem get_typed (plain : lib.Plain) :
    (InstanceStore.get lib (.str id)).run (perform receipt) w =
      (Osb.InstanceStore.get id).run (Osb.perform receipt) w := by
  simp only [InstanceStore.get, Osb.InstanceStore.get, CallTree.run_bind, CallTree.run_invoke,
    perform, Osb.perform, plain.str]
  cases w.instances id with
  | none => rfl
  | some item =>
      dsimp only
      rw [CallTree.run_ofExcept, CallTree.run_ofExcept]

theorem deprovision_typed (plain : lib.Plain) (encodes : Encodes members payload) :
    (Worker.deprovision lib settings members).run (perform receipt) w =
      (Osb.Worker.deprovision ⟨settings.artifactPrefix⟩ payload).run (Osb.perform receipt) w := by
  unfold Worker.deprovision Osb.Worker.deprovision
  simp only [Worker.subscript, Osb.Worker.subscript, encodes.instanceId]
  cases payload.instanceId with
  | none => rfl
  | some id =>
      simp only [Option.map_some, require, CallTree.ofExcept_ok, CallTree.ret_bind]
      rw [ArtifactStore.delete, key_typed plain]
      rfl

theorem bind_typed (plain : lib.Plain) (encodes : Encodes members payload) :
    (Worker.bind lib draws members).run (perform receipt) w =
      (Osb.Worker.bind draws payload).run (Osb.perform receipt) w := by
  unfold Worker.bind Osb.Worker.bind
  simp only [Worker.subscript, Osb.Worker.subscript, encodes.instanceId, encodes.bindingId]
  cases payload.instanceId with
  | none => rfl
  | some id =>
      cases payload.bindingId with
      | none => rfl
      | some bid =>
          simp only [Option.map_some, require, CallTree.ofExcept_ok, CallTree.ret_bind,
            Worker.credentials, plain.str]
          rfl

theorem provision_typed (plain : lib.Plain) (encodes : Encodes members payload) :
    (Worker.provision lib settings draws.now members).run (perform receipt) w =
      (Osb.Worker.provision ⟨settings.artifactPrefix⟩ draws.now payload).run (Osb.perform receipt)
        w := by
  have rendered (id service plan : String) :
      renderResources lib (.str id) (.str service) (.str plan)
          (get ((members.lookup "parameters").getD (.dict []))) =
        Osb.renderResources id service plan (payload.parameters.getD ∅) := by
    refine renderResources_typed plain fun key => ?_
    rw [← encodes.get_parameters ∅ key]
    cases members.lookup "parameters" <;> rfl
  have written (id : String) : (Worker.provisioned lib settings draws.now (.str id)).typed =
      { state := .available, updatedAt := draws.now, description := "provisioned"
        operation := "provision"
        artifactKey := (Settings.artifactKey ⟨settings.artifactPrefix⟩ id)
        dashboardUrl := Osb.Worker.dashboardUrl id } := by
    simp only [Worker.provisioned, InstanceUpdate.typed, key_typed plain, plain.str]
    rfl
  unfold Worker.provision Osb.Worker.provision
  simp only [Worker.subscript, Osb.Worker.subscript, encodes.instanceId, encodes.serviceId,
    encodes.planId]
  cases payload.instanceId with
  | none => rfl
  | some id =>
      cases payload.serviceId with
      | none => rfl
      | some service =>
          cases payload.planId with
          | none => rfl
          | some plan =>
              simp only [Option.map_some, require, CallTree.ofExcept_ok, CallTree.ret_bind,
                rendered, CallTree.run_bind, CallTree.run_ofExcept]
              cases Osb.renderResources id service plan (payload.parameters.getD ∅) with
              | error e => rfl
              | ok document =>
                  dsimp only
                  rw [write_typed plain]
                  simp only [Osb.ArtifactStore.write, CallTree.run_bind, CallTree.run_invoke,
                    Osb.perform, CallTree.pure_eq, CallTree.run_ret, InstanceStore.transition,
                    Osb.InstanceStore.transition, perform, written]

theorem update_typed (plain : lib.Plain) (encodes : Encodes members payload) :
    (Worker.update lib settings draws.now members).run (perform receipt) w =
      (Osb.Worker.update ⟨settings.artifactPrefix⟩ draws.now payload).run (Osb.perform receipt)
        w := by
  have rendered (id : String) (inst : Instance) :
      Worker.renderUpdate lib (.str id) members inst =
        Osb.renderResources id (payload.serviceId.getD inst.serviceId)
          (payload.planId.getD inst.planId) (payload.parameters.getD inst.parameters) := by
    have service : (members.lookup "service_id").getD (.str inst.serviceId) =
        .str (payload.serviceId.getD inst.serviceId) := by
      rw [encodes.serviceId]
      cases payload.serviceId <;> rfl
    have plan : (members.lookup "plan_id").getD (.str inst.planId) =
        .str (payload.planId.getD inst.planId) := by
      rw [encodes.planId]
      cases payload.planId <;> rfl
    rw [Worker.renderUpdate, service, plan]
    exact renderResources_typed plain (encodes.get_parameters inst.parameters)
  have written (id : String) : (Worker.updated lib settings draws.now (.str id) members).typed =
      { state := .available, updatedAt := draws.now, description := "updated", operation := "update"
        artifactKey := Settings.artifactKey ⟨settings.artifactPrefix⟩ id
        planId := payload.planId, parameters := payload.parameters } := by
    simp only [Worker.updated, InstanceUpdate.typed, key_typed plain, encodes.toDict_parameters,
      encodes.planId]
    cases payload.planId <;> rfl
  unfold Worker.update Osb.Worker.update
  simp only [Worker.subscript, Osb.Worker.subscript, encodes.instanceId]
  cases payload.instanceId with
  | none => rfl
  | some id =>
      simp only [Option.map_some, require, CallTree.ofExcept_ok, CallTree.ret_bind,
        CallTree.run_bind, CallTree.run_attempt, get_typed plain]
      cases (Osb.InstanceStore.get id).run (Osb.perform receipt) w with
      | mk result w' =>
          cases result with
          | ok inst =>
              dsimp only
              simp only [rendered, CallTree.run_bind, CallTree.run_ofExcept]
              cases Osb.renderResources id (payload.serviceId.getD inst.serviceId)
                  (payload.planId.getD inst.planId) (payload.parameters.getD inst.parameters) with
              | error e => rfl
              | ok document =>
                  dsimp only
                  rw [write_typed plain]
                  simp only [Osb.ArtifactStore.write, CallTree.run_bind, CallTree.run_invoke,
                    Osb.perform, CallTree.pure_eq, CallTree.run_ret, InstanceStore.transition,
                    Osb.InstanceStore.transition, perform, written]
          | error e =>
              cases e with
              | osb error =>
                  obtain ⟨kind, message⟩ := error
                  cases kind with
                  | instanceNotFound =>
                      have logged : logLine lib .warning "update for missing instance"
                          [("instance_id", .str id)] = .ret () := plain.logs.line _ _ (by simp)
                      dsimp only
                      rw [logged]
                      rfl
                  | _ => rfl
              | _ => rfl

theorem unbind_typed (plain : lib.Plain) (encodes : Encodes members payload) :
    (Worker.unbind lib members).run (perform receipt) w =
      (Osb.Worker.unbind payload).run (Osb.perform receipt) w := by
  unfold Worker.unbind Osb.Worker.unbind
  simp only [Worker.subscript, Osb.Worker.subscript, encodes.bindingId]
  cases payload.bindingId with
  | none => rfl
  | some bid =>
      have logged : logLine lib .info "unbind handled" [("binding_id", .str bid)] = .ret () :=
        plain.logs.line _ _ (by simp)
      simp only [Option.map_some, require, CallTree.ofExcept_ok, CallTree.ret_bind, logged]
      rfl

theorem bound_plain (encodes : Encodes members payload) :
    ∀ field ∈ Worker.bound messageId members,
      field.2 = .none ∨ ∃ text, field.2 = .str text := by
  simp only [Worker.bound, encodes.op, List.forall_mem_cons]
  refine ⟨?_, ?_, by simp⟩
  · cases payload.op with
    | none => exact .inl rfl
    | some op => exact .inr ⟨_, rfl⟩
  · cases messageId with
    | none => exact .inl rfl
    | some messageId => exact .inr ⟨_, rfl⟩

theorem logFailure_typed (plain : lib.Plain) (encodes : Encodes members payload) (e : Exn) :
    Worker.logFailure lib messageId members e = .ret () := by
  have fields (more : List (String × Value))
      (strings : ∀ field ∈ more, ∃ text, field.2 = .str text) :
      ∀ field ∈ Worker.bound messageId members ++ more,
        field.2 = .none ∨ ∃ text, field.2 = .str text := by
    intro field member
    rcases List.mem_append.mp member with member | member
    · exact bound_plain encodes field member
    · exact .inr (strings field member)
  cases e with
  | osb e => exact plain.logs.line _ _ (fields _ (by simp))
  | _ => exact plain.logs.line _ _ (fields _ (by simp))

theorem dispatch_typed (plain : lib.Plain) (encodes : Encodes members payload) :
    (Worker.dispatch lib settings draws messageId members).run (perform receipt) w =
      (Osb.Worker.dispatch ⟨settings.artifactPrefix⟩ draws payload).run (Osb.perform receipt)
        w := by
  unfold Worker.dispatch Osb.Worker.dispatch
  simp only [encodes.op]
  cases op : payload.op with
  | none =>
      have logged : logLine lib .error "unknown op" (Worker.bound messageId members) = .ret () :=
        plain.logs.line _ _ (bound_plain encodes)
      simp [logged]
  | some op' =>
      cases op' with
      | unknown name => exact absurd op (encodes.known name)
      | provision => simpa [Op.name] using provision_typed plain encodes
      | update => simpa [Op.name] using update_typed plain encodes
      | deprovision => simpa [Op.name] using deprovision_typed plain encodes
      | bind => simpa [Op.name] using bind_typed plain encodes
      | unbind => simpa [Op.name] using unbind_typed plain encodes

theorem handle_typed (plain : lib.Plain) {text : String} {queue : QueueName}
    (loaded : lib.loads text = .ok (.dict members)) (encodes : Encodes members payload) :
    (Worker.handle lib settings queue draws ⟨receipt, some text, messageId⟩).run (perform receipt)
        w =
      (Osb.Worker.handle ⟨settings.artifactPrefix⟩ queue draws ⟨receipt, .object payload⟩).run
        (Osb.perform receipt) w := by
  unfold Worker.handle Osb.Worker.handle
  simp only [Option.getD_some, loaded, CallTree.run_bind, CallTree.run_attempt,
    dispatch_typed plain encodes]
  cases (Osb.Worker.dispatch ⟨settings.artifactPrefix⟩ draws payload).run (Osb.perform receipt)
      w with
  | mk result w' =>
      cases result with
      | error e =>
          dsimp only
          rw [logFailure_typed plain encodes]
          rfl
      | ok _ => rfl

end Untyped

end Regnant.Osb
