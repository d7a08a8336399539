import Mathlib.Data.List.Permutation
import Regnant.Lib.ReadModifyWrite
import Regnant.Proof.Threads
import Regnant.Proof.Updates

/-!
# Concurrent updates

`update_instance` reads the row, writes the PATCH and what it read back to it, and sends the same to
the worker. Nothing keeps another PATCH from writing or sending in between. As long as none does to
any effect, the updates are as good as made one after another.
-/

namespace Regnant.Osb
open Function (update update_of_ne update_self)
open ReadModifyWrite (Register Phase Label Careful Serial WriteOrder Ranked)

/-- Requests to update the instance arrive and make their calls, none of which fails. -/
def Action.Updates (id : String) : Action → Prop
  | .start (.update id' _ _) _ _ => id' = id
  | .call _ outcome => outcome = .ok
  | _ => False

instance Action.Updates.decidable (id : String) : DecidablePred (Action.Updates id)
  | .start (.update id' _ _) _ _ => inferInstanceAs (Decidable (id' = id))
  | .call _ outcome => inferInstanceAs (Decidable (outcome = .ok))
  | .start (.provision _ _ _) _ _ | .start (.deprovision _ _ _ _) _ _
  | .start (.fetchInstance _) _ _ | .start (.instanceLastOperation _) _ _
  | .start (.bind _ _ _) _ _ | .start (.unbind _ _ _ _) _ _ | .start (.fetchBinding _ _) _ _
  | .start (.bindingLastOperation _ _) _ _ | .receive _ _ _ _ | .again _ _ _ _ =>
      inferInstanceAs (Decidable False)

def Aws.configuration (w : Aws) (id : String) : Option (String × Dict) :=
  (w.instances id).bind fun item => item.planId.map fun plan => (plan, item.parameters.getD ∅)

def Aws.serially (now : String) (w : Aws) (requests : List Request) : Aws :=
  requests.foldl (fun w asked => (w.answer ⟨asked.instanceId, 0⟩ now asked).2) w

/-- The row is as if the answered requests had been made one after another, and the newest update
message has the plan and the parameters of the row. -/
structure System.Serialised (id : String) (w : Aws) (s : System) : Prop where
  row : ∃ order, order.Perm (s.answers.map (·.request)) ∧
    ∀ now, s.aws.configuration id = (w.serially now order).configuration id
  message : (∃ a ∈ s.answers, a.response.accepted) → ∃ configuration,
    s.aws.configuration id = some configuration ∧
      newest Payload.writeBack (s.aws.tasksAbout id) = some configuration

def UpdateRequest.configure (u : UpdateRequest) (configuration : String × Dict) : String × Dict :=
  (planOr u.planId configuration.1, configuration.2.merge u.parameters)

def InstanceUpdate.configuration (u : InstanceUpdate) : Option (String × Dict) :=
  u.planId.map fun plan => (plan, u.parameters.getD ∅)

/-- A PATCH writes what it makes of the row as it is now, and sends in the order of the writes. -/
def UpdateRequest.InStep (w : Aws) (id : String) (inOrder : Prop) (u : UpdateRequest) :
    Call → Prop
  | .updateInstance _ written => ∀ configuration ∈ w.configuration id,
      written.configuration = some (u.configure configuration)
  | .sendMessage _ _ => inOrder
  | _ => True

instance UpdateRequest.InStep.decidable (w : Aws) (id : String) (inOrder : Prop)
    [Decidable inOrder] (u : UpdateRequest) : DecidablePred (u.InStep w id inOrder)
  | .updateInstance _ written => inferInstanceAs (Decidable (∀ configuration ∈ w.configuration id,
      written.configuration = some (u.configure configuration)))
  | .sendMessage _ _ => inferInstanceAs (Decidable inOrder)
  | .getInstance _ | .putInstance _ _ | .deleteInstance _ | .getBinding _ _ | .putBinding _ _ _
  | .updateBinding _ _ _ | .deleteBinding _ _ | .putObject _ _ | .deleteObject _
  | .deleteMessage _ _ => inferInstanceAs (Decidable True)

def Thread.patch : Thread → Option (UpdateRequest × Call)
  | .request (.update _ u _) rest => rest.next.map fun c => (u, c)
  | _ => none

structure OrderedSystem where
  system : System
  order : WriteOrder ThreadName

namespace OrderedSystem

def init (w : Aws) : OrderedSystem :=
  ⟨⟨w, ∅, [], []⟩, .init⟩

def counted (id : String) (s : OrderedSystem) : Action → WriteOrder ThreadName
  | .call name _ =>
      match (s.system.threads.lookup name).bind Thread.patch with
      | some (_, .updateInstance _ written) =>
          s.order.wrote name (written.configuration ≠ s.system.aws.configuration id)
      | some (_, .sendMessage _ _) => s.order.publish name
      | _ => s.order
  | _ => s.order

def step (settings : Settings) (id : String) (s : OrderedSystem) (i : Action) : OrderedSystem :=
  ⟨s.system.step settings i, s.counted id i⟩

def InStep (id : String) (s : OrderedSystem) : Action → Prop
  | .call name _ => ∀ p ∈ (s.system.threads.lookup name).bind Thread.patch,
      p.1.InStep s.system.aws id
        (s.system.threads.keys ⊆ {name} → s.order.published ≤ s.order.seen name) p.2
  | _ => True

instance InStep.decidable (id : String) (s : OrderedSystem) : DecidablePred (s.InStep id)
  | .call name _ =>
      inferInstanceAs (Decidable (∀ p ∈ (s.system.threads.lookup name).bind Thread.patch,
        p.1.InStep s.system.aws id
          (s.system.threads.keys ⊆ {name} → s.order.published ≤ s.order.seen name) p.2))
  | .start _ _ _ | .receive _ _ _ _ | .again _ _ _ _ => inferInstanceAs (Decidable True)

end OrderedSystem

variable {id now : String} {u : UpdateRequest} {inst : Instance} {item : InstanceItem} {w : Aws}
  {self : ExecutionName} {configuration : String × Dict}

def sending (id : String) (u : UpdateRequest) (inst : Instance) : Handler Response :=
  respond 202 do
    TaskQueue.send .provision (.update id u.serviceId (planOr u.planId inst.planId)
      (inst.parameters.merge u.parameters))
    return .operation "update"

def writing (now id : String) (u : UpdateRequest) (inst : Instance) : Handler Response :=
  respond 202 do
    InstanceStore.transition id (updateQueued now u inst)
    TaskQueue.send .provision (.update id u.serviceId (planOr u.planId inst.planId)
      (inst.parameters.merge u.parameters))
    return .operation "update"

theorem advance_reading (present : w.instances id = some item)
    (read : instanceFromItem id item = .ok inst) :
    (app now (.update id u true)).advance (perform self) w = (writing now id u inst, w) := by
  simp [app, updateInstance, InstanceStore.get, respond, CallTree.advance, CallTree.invoke, perform,
    present, read, writing, updateQueued]

theorem advance_writing :
    (writing now id u inst).advance (perform self) w = (sending id u inst, { w with
      instances := update w.instances id
        (some ((updateQueued now u inst).apply ((w.instances id).getD {}))) }) :=
  rfl

theorem advance_sending :
    (sending id u inst).advance (perform self) w = (.ret ⟨202, .operation "update"⟩, { w with
      provisionTasks := w.provisionTasks ++ [⟨self, .object (.update id u.serviceId
        (planOr u.planId inst.planId) (inst.parameters.merge u.parameters))⟩] }) :=
  rfl

def Aws.Reads (w : Aws) (id : String) (configuration : String × Dict) : Prop :=
  ∃ item inst, w.instances id = some item ∧ instanceFromItem id item = .ok inst ∧
    (inst.planId, inst.parameters) = configuration

theorem Aws.Reads.shown (reads : w.Reads id configuration) :
    w.configuration id = some configuration := by
  obtain ⟨item, inst, present, read, rfl⟩ := reads
  obtain ⟨-, plan, -, parameters, -⟩ := instanceFromItem_ok read
  simp [Aws.configuration, present, plan, parameters]

theorem Aws.Reads.updated (read : instanceFromItem id item = .ok inst)
    (inst' : Instance) {w' : Aws}
    (row : w'.instances id = some ((Osb.updateQueued now u inst').apply item)) :
    w'.Reads id (u.configure (inst'.planId, inst'.parameters)) :=
  ⟨_, _, row, instanceFromItem_apply read _, rfl⟩

theorem Aws.Reads.answer (reads : w.Reads id configuration) :
    (w.answer self now (.update id u true)).2.Reads id (u.configure configuration) := by
  obtain ⟨item, inst, present, read, rfl⟩ := reads
  rw [answer_update_present present, read]
  exact .updated read inst (update_self ..)

theorem serially_reads (now : String) (order : List UpdateRequest)
    (reads : w.Reads id configuration) :
    (w.serially now (order.map (Request.update id · true))).Reads id
      (ReadModifyWrite.serially UpdateRequest.configure configuration order) := by
  induction order generalizing w configuration with
  | nil => exact reads
  | cons u order ih => exact ih reads.answer

theorem serially_unchanged (now : String) (requests : List Request)
    (unchanged : ∀ asked ∈ requests, (w.answer ⟨asked.instanceId, 0⟩ now asked).2 = w) :
    w.serially now requests = w := by
  induction requests with
  | nil => rfl
  | cons asked requests ih =>
      obtain ⟨here, rest⟩ := List.forall_mem_cons.mp unchanged
      rw [Aws.serially, List.foldl_cons, here]
      exact ih rest

theorem answer_unread (unread : ∀ configuration, ¬w.Reads id configuration) (incomplete : Bool) :
    (w.answer self now (.update id u incomplete)).2 = w := by
  cases incomplete with
  | false => rw [answer_update_sync]
  | true =>
      cases present : w.instances id with
      | none => rw [answer_update_absent present]
      | some item =>
          rw [answer_update_present present]
          cases read : instanceFromItem id item with
          | error e => rfl
          | ok inst => exact absurd ⟨item, inst, present, read, rfl⟩ (unread _)

def Answer.patch (a : Answer) : Option UpdateRequest :=
  match a.request with
  | .update _ u true => some u
  | _ => none

def Answer.Updates (id : String) (a : Answer) : Prop :=
  ∃ u incomplete, a.request = .update id u incomplete ∧ (a.response.accepted ↔ incomplete = true)

theorem requests_perm {answers : List Answer} (all : ∀ a ∈ answers, a.Updates id) :
    ∃ rejected : List Request, (∀ asked ∈ rejected, ∃ u, asked = .update id u false) ∧
      ((answers.filterMap Answer.patch).map (Request.update id · true) ++ rejected).Perm
        (answers.map Answer.request) := by
  induction answers with
  | nil => exact ⟨[], by simp, .nil⟩
  | cons a answers ih =>
      obtain ⟨⟨u, incomplete, asked, -⟩, rest⟩ := List.forall_mem_cons.mp all
      obtain ⟨rejected, sync, perm⟩ := ih rest
      cases incomplete with
      | true =>
          refine ⟨rejected, sync, ?_⟩
          simpa [asked, Answer.patch] using perm
      | false =>
          refine ⟨.update id u false :: rejected,
            List.forall_mem_cons.mpr ⟨⟨u, rfl⟩, sync⟩, ?_⟩
          simp only [List.filterMap_cons, List.map_cons, asked, Answer.patch]
          exact List.perm_middle.trans (perm.cons _)

/-! ## The row as a register -/

inductive UpdateThread (id : String) :
    Option Thread → Phase UpdateRequest (String × Dict) → Prop where
  | idle : UpdateThread id none .idle
  | reading (now : String) (u : UpdateRequest) :
      UpdateThread id (some (.request (.update id u true) (app now (.update id u true))))
        (.reading u)
  | writing (now : String) (u : UpdateRequest) (inst : Instance) :
      UpdateThread id (some (.request (.update id u true) (writing now id u inst)))
        (.writing u (inst.planId, inst.parameters))
  | publishing (u : UpdateRequest) (inst : Instance) :
      UpdateThread id (some (.request (.update id u true) (sending id u inst)))
        (.publishing u (u.configure (inst.planId, inst.parameters)))

structure Tracks (id : String) (s : System)
    (r : Register ThreadName UpdateRequest (String × Dict)) : Prop where
  row : s.aws.Reads id r.value
  threads : ∀ name, UpdateThread id (s.threads.lookup name) (r.clients name)
  answered : ∀ a ∈ s.answers, a.Updates id
  finished : s.answers.filterMap Answer.patch = r.finished
  published : ∀ configuration, r.published = some configuration →
    newest Payload.writeBack (s.aws.tasksAbout id) = some configuration

variable {settings : Settings} {s s' : System} {name : ThreadName} {thread : Thread}
  {r : Register ThreadName UpdateRequest (String × Dict)}

theorem UpdateThread.of_none {phase : Phase UpdateRequest (String × Dict)}
    (thread : UpdateThread id none phase) : phase = .idle := by
  cases thread
  rfl

theorem UpdateThread.of_idle {running : Option Thread} (thread : UpdateThread id running .idle) :
    running = none := by
  cases thread
  rfl

theorem UpdateThread.goes {phase : Phase UpdateRequest (String × Dict)}
    (threads : ∀ name, UpdateThread id (s.threads.lookup name) (r.clients name))
    (goes : s.Goes name thread s')
    (own : UpdateThread id (if thread.ended = none then some thread else none) phase) :
    ∀ name', UpdateThread id (s'.threads.lookup name') (update r.clients name phase name') := by
  intro name'
  by_cases same : name' = name
  · subst same
    rw [update_self, goes.own]
    exact own
  · rw [update_of_ne same, goes.others name' same]
    exact threads name'

theorem System.goes_call (settings : Settings) {asked : Request} {rest : Handler Response}
    (looked : s.threads.lookup name = some (.request asked rest)) :
    s.Goes name (.request asked (rest.advance (perform name.self) s.aws).1)
        (s.step settings (.call name .ok)) ∧
      (s.step settings (.call name .ok)).aws = (rest.advance (perform name.self) s.aws).2 := by
  simp only [System.step, looked]
  exact ⟨System.goes_resume rfl rfl, System.resume_aws _ _ _⟩

theorem tasksAbout_concat (w : Aws) (self : ExecutionName) (payload : Payload)
    (about : payload.instanceId = some id) :
    { w with
      provisionTasks := w.provisionTasks ++ [Message.mk self (.object payload)] }.tasksAbout id =
      w.tasksAbout id ++ [payload] := by
  simp [Aws.tasksAbout, Aws.payloads, Message.payload, about]

theorem Tracks.started (tracks : Tracks id s r) (settings : Settings) (u : UpdateRequest)
    (incomplete : Bool) (serial : Nat) (now : String) :
    ∃ r', Tracks id (s.step settings (.start (.update id u incomplete) serial now)) r' ∧
      (r' = r ∨ ∃ name, r' = ReadModifyWrite.step UpdateRequest.configure r (.start name u)) := by
  simp only [System.step]
  split
  next => exact ⟨r, tracks, .inl rfl⟩
  next free =>
    have free : s.threads.lookup (.request ⟨(Request.update id u incomplete).instanceId, serial⟩) =
        none := Finmap.lookup_eq_none.mpr free
    generalize ThreadName.request _ = name at free
    have goes : s.Goes name _ (s.resume name (.request (.update id u incomplete)
        (app now (.update id u incomplete)))) := System.goes_resume rfl rfl
    have aws := s.resume_aws name (.request (.update id u incomplete)
      (app now (.update id u incomplete)))
    have idle : r.clients name = .idle := (free ▸ tracks.threads name).of_none
    generalize s.resume name _ = s' at goes aws
    cases incomplete with
    | false =>
        have threads := UpdateThread.goes tracks.threads goes .idle
        rw [← idle, Function.update_eq_self] at threads
        refine ⟨r, ⟨aws ▸ tracks.row, threads, ?_, ?_, aws ▸ tracks.published⟩, .inl rfl⟩
        · rw [goes.answers]
          refine List.forall_mem_cons.mpr ⟨⟨u, false, rfl, ?_⟩, tracks.answered⟩
          simp [Response.accepted, OsbErrorKind.statusCode]
        · rw [goes.answers]
          exact tracks.finished
    | true =>
        refine ⟨{ r with clients := update r.clients name (.reading u) },
          ⟨aws ▸ tracks.row, UpdateThread.goes tracks.threads goes (.reading now u), ?_, ?_,
            aws ▸ tracks.published⟩, .inr ⟨name, ?_⟩⟩
        · rw [goes.answers]
          exact tracks.answered
        · rw [goes.answers]
          exact tracks.finished
        · simp [ReadModifyWrite.step, idle]

theorem Tracks.read {u : UpdateRequest} {now : String} (tracks : Tracks id s r)
    (looked : s.threads.lookup name =
      some (.request (.update id u true) (app now (.update id u true)))) :
    Tracks id (s.step settings (.call name .ok))
      { r with clients := update r.clients name (.writing u r.value) } := by
  obtain ⟨item, inst, present, read, same⟩ := tracks.row
  obtain ⟨goes, aws⟩ := System.goes_call settings looked
  rw [advance_reading present read] at goes aws
  refine ⟨aws ▸ tracks.row, ?_, ?_, ?_, aws ▸ tracks.published⟩
  · exact UpdateThread.goes tracks.threads goes (same ▸ .writing now u inst)
  · rw [goes.answers]
    exact tracks.answered
  · rw [goes.answers]
    exact tracks.finished

theorem Tracks.wrote {u : UpdateRequest} {now : String} (tracks : Tracks id s r)
    (looked : s.threads.lookup name = some (.request (.update id u true) (writing now id u inst))) :
    Tracks id (s.step settings (.call name .ok))
      { r with
        value := u.configure (inst.planId, inst.parameters)
        clients := update r.clients name
          (.publishing u (u.configure (inst.planId, inst.parameters))) } := by
  obtain ⟨item, inst', present, read, -⟩ := tracks.row
  obtain ⟨goes, aws⟩ := System.goes_call settings looked
  rw [advance_writing] at goes aws
  have row : (s.step settings (.call name .ok)).aws.instances id =
      some ((updateQueued now u inst).apply item) := by
    simp [aws, present]
  refine ⟨.updated read inst row, ?_, ?_, ?_, ?_⟩
  · exact UpdateThread.goes tracks.threads goes (.publishing u inst)
  · rw [goes.answers]
    exact tracks.answered
  · rw [goes.answers]
    exact tracks.finished
  · rw [aws]
    exact tracks.published

theorem Tracks.sent {u : UpdateRequest} (tracks : Tracks id s r)
    (looked : s.threads.lookup name = some (.request (.update id u true) (sending id u inst))) :
    Tracks id (s.step settings (.call name .ok))
      { r with
        published := some (u.configure (inst.planId, inst.parameters))
        finished := u :: r.finished
        clients := update r.clients name .idle } := by
  obtain ⟨goes, aws⟩ := System.goes_call settings looked
  rw [advance_sending] at goes aws
  refine ⟨?_, UpdateThread.goes tracks.threads goes .idle, ?_, ?_, ?_⟩
  · rw [aws]
    exact tracks.row
  · rw [goes.answers]
    exact List.forall_mem_cons.mpr ⟨⟨u, true, rfl, by simp [Response.accepted]⟩, tracks.answered⟩
  · rw [goes.answers, ← tracks.finished]
    rfl
  · intro configuration new
    rw [aws, tasksAbout_concat s.aws _ _ rfl, newest_concat, ← new]
    rfl

variable {o : OrderedSystem}

theorem Tracks.called (tracks : Tracks id o.system r) (ranked : Ranked r o.order)
    (inStep : o.InStep id (.call name .ok)) :
    Careful UpdateRequest.configure r (.advance name) ∧
      Tracks id (o.step settings id (.call name .ok)).system
        (ReadModifyWrite.step UpdateRequest.configure r (.advance name)) ∧
      Ranked (ReadModifyWrite.step UpdateRequest.configure r (.advance name))
        (o.step settings id (.call name .ok)).order := by
  have thread := tracks.threads name
  simp only [Careful, ReadModifyWrite.step, OrderedSystem.step, OrderedSystem.counted]
  cases looked : o.system.threads.lookup name with
  | none =>
      rw [looked] at thread
      rw [thread.of_none]
      refine ⟨trivial, ?_, ranked⟩
      simpa only [System.step, looked] using tracks
  | some running =>
      rw [looked] at thread
      generalize phase : r.clients name = client at thread
      simp only [OrderedSystem.InStep, looked] at inStep
      cases thread with
      | reading now u =>
          exact ⟨trivial, tracks.read looked, ranked.moved (by simp [phase]) (by simp)⟩
      | writing now u inst =>
          have written : ∀ configuration ∈ o.system.aws.configuration id,
            some (u.configure (inst.planId, inst.parameters)) =
              some (u.configure configuration) := inStep (u, _) rfl
          have current := Option.some.inj (written r.value tracks.row.shown)
          refine ⟨current, tracks.wrote looked, ranked.wrote fun unchanged => ?_⟩
          have same : some (u.configure (inst.planId, inst.parameters)) =
            o.system.aws.configuration id := not_not.mp unchanged
          rw [tracks.row.shown] at same
          exact Option.some.inj same
      | publishing u inst =>
          refine ⟨fun idle => ?_, tracks.sent looked, ranked.publish phase⟩
          have inOrder : o.system.threads.keys ⊆ {name} →
            o.order.published ≤ o.order.seen name := inStep (u, _) rfl
          have alone : o.system.threads.keys ⊆ {name} := by
            intro other member
            rw [Finset.mem_singleton]
            by_contra ne
            have none := (idle other ne ▸ tracks.threads other).of_idle
            exact Finmap.lookup_eq_none.mp none (Finmap.mem_keys.mp member)
          exact ranked.last phase idle (inOrder alone)

def OrderedSystem.Tracked (id : String) (configuration : String × Dict) (o : OrderedSystem) :
    Prop :=
  ∃ r, Tracks id o.system r ∧ Serial UpdateRequest.configure configuration r ∧ Ranked r o.order

theorem OrderedSystem.Tracked.step {i : Action} (tracked : o.Tracked id configuration)
    (updates : i.Updates id) (inStep : o.InStep id i) :
    (o.step settings id i).Tracked id configuration := by
  obtain ⟨r, tracks, serial, ranked⟩ := tracked
  cases i with
  | start asked serial' now =>
      cases asked with
      | update id' u incomplete =>
          obtain rfl : id' = id := updates
          obtain ⟨r', tracks', rfl | ⟨name, rfl⟩⟩ :=
            tracks.started settings u incomplete serial' now
          · exact ⟨_, tracks', serial, ranked⟩
          · exact ⟨_, tracks', serial.step trivial, ranked.started⟩
      | _ => exact updates.elim
  | call name outcome =>
      obtain rfl : outcome = .ok := updates
      obtain ⟨careful, tracks', ranked'⟩ := tracks.called ranked inStep
      exact ⟨_, tracks', serial.step careful, ranked'⟩
  | _ => exact updates.elim

theorem Tracks.serialised (tracks : Tracks id s r) (reads : w.Reads id configuration)
    (serial : Serial UpdateRequest.configure configuration r) (done : ∀ name, name ∉ s.threads) :
    s.Serialised id w := by
  have quiet : r.Quiet := by
    intro name
    have thread := tracks.threads name
    rw [Finmap.lookup_eq_none.mpr (done name)] at thread
    exact thread.of_none
  constructor
  · obtain ⟨order, perm, value⟩ := serial.quiet quiet
    obtain ⟨rejected, sync, requests⟩ := requests_perm tracks.answered
    rw [tracks.finished] at requests
    refine ⟨order.map (Request.update id · true) ++ rejected,
      ((perm.map _).append_right rejected).trans requests, fun now => ?_⟩
    have unchanged (w : Aws) : w.serially now rejected = w := by
      apply serially_unchanged
      intro asked member
      obtain ⟨u, rfl⟩ := sync asked member
      rw [answer_update_sync]
    have split : w.serially now (order.map (Request.update id · true) ++ rejected) =
        w.serially now (order.map (Request.update id · true)) := by
      rw [Aws.serially, List.foldl_append]
      exact unchanged _
    rw [split, (serially_reads now order reads).shown, tracks.row.shown, value]
  · rintro ⟨a, member, accepted⟩
    obtain ⟨u, incomplete, asked, accepts⟩ := tracks.answered a member
    obtain rfl := accepts.mp accepted
    have finished : r.finished ≠ [] := by
      rw [← tracks.finished]
      exact List.ne_nil_of_mem (List.mem_filterMap.mpr ⟨a, member, by rw [Answer.patch, asked]⟩)
    exact ⟨r.value, tracks.row.shown, tracks.published _ (serial.published quiet finished)⟩

/-! ## Rows that cannot be read -/

theorem advance_unread (self : ExecutionName) (now : String) (u : UpdateRequest)
    (unread : ∀ configuration, ¬w.Reads id configuration) :
    ∃ response, (app now (.update id u true)).advance (perform self) w = (.ret response, w) ∧
      ¬response.accepted := by
  cases present : w.instances id with
  | none =>
      refine ⟨⟨404, .error "InstanceNotFound" s!"instance {id} not found"⟩, ?_,
        by simp [Response.accepted]⟩
      simp [app, updateInstance, InstanceStore.get, respond, CallTree.advance, CallTree.invoke,
        perform, present, osbError, OsbErrorKind.statusCode, OsbErrorKind.errorCode]
  | some item =>
      cases read : instanceFromItem id item with
      | ok inst => exact absurd ⟨item, inst, present, read, rfl⟩ (unread _)
      | error e =>
          obtain ⟨key, rfl⟩ := instanceFromItem_error read
          refine ⟨⟨500, .serverError⟩, ?_, by simp [Response.accepted]⟩
          simp [app, updateInstance, InstanceStore.get, respond, CallTree.advance, CallTree.invoke,
            perform, present, read]

structure System.Refuses (id : String) (w : Aws) (s : System) : Prop where
  aws : s.aws = w
  threads : ∀ name thread, s.threads.lookup name = some thread →
    ∃ u now, thread = .request (.update id u true) (app now (.update id u true))
  answers : ∀ a ∈ s.answers, (∃ u incomplete, a.request = .update id u incomplete) ∧
    ¬a.response.accepted

theorem System.Refuses.goes (refuses : s.Refuses id w) (goes : s.Goes name thread s')
    (aws : s'.aws = s.aws)
    (own : thread.ended = none →
      ∃ u now, thread = .request (.update id u true) (app now (.update id u true)))
    (answer : ∀ a ∈ thread.ended.join, (∃ u incomplete, a.request = .update id u incomplete) ∧
      ¬a.response.accepted) : s'.Refuses id w := by
  refine ⟨aws.trans refuses.aws, fun name' thread' looked => ?_, fun a member => ?_⟩
  · by_cases same : name' = name
    · subst same
      rw [goes.own] at looked
      split at looked
      next runs => exact Option.some.inj looked ▸ own runs
      next => cases looked
    · rw [goes.others name' same] at looked
      exact refuses.threads name' thread' looked
  · rw [goes.answers, List.mem_append, Option.mem_toList] at member
    exact member.elim (answer a) (refuses.answers a)

theorem refuses_step (unread : ∀ configuration, ¬w.Reads id configuration) {i : Action}
    (updates : i.Updates id) (refuses : s.Refuses id w) : (s.step settings i).Refuses id w := by
  cases i with
  | start asked serial now =>
      cases asked with
      | update id' u incomplete =>
          obtain rfl : id' = id := updates
          simp only [System.step]
          split
          next => exact refuses
          next =>
            refine refuses.goes (System.goes_resume rfl rfl) (System.resume_aws _ _ _) ?_ ?_
            · intro runs
              cases incomplete with
              | true => exact ⟨u, now, rfl⟩
              | false => cases runs
            · intro a ended
              cases incomplete with
              | true => cases ended
              | false =>
                  obtain rfl := Option.some.inj ended
                  exact ⟨⟨u, false, rfl⟩, by simp [Response.accepted, OsbErrorKind.statusCode]⟩
      | _ => exact updates.elim
  | call name outcome =>
      obtain rfl : outcome = .ok := updates
      cases looked : s.threads.lookup name with
      | none => simpa only [System.step, looked] using refuses
      | some thread =>
          obtain ⟨u, now, rfl⟩ := refuses.threads name thread looked
          obtain ⟨goes, aws⟩ := System.goes_call settings looked
          obtain ⟨response, advanced, rejected⟩ :=
            advance_unread name.self now u (refuses.aws ▸ unread)
          rw [advanced] at goes aws
          refine refuses.goes goes aws (fun runs => by cases runs) fun a ended => ?_
          obtain rfl := Option.some.inj ended
          exact ⟨⟨u, true, rfl⟩, rejected⟩
  | _ => exact updates.elim

theorem System.Refuses.serialised (refuses : s.Refuses id w)
    (unread : ∀ configuration, ¬w.Reads id configuration) : s.Serialised id w := by
  constructor
  · refine ⟨_, .rfl, fun now => ?_⟩
    rw [serially_unchanged, refuses.aws]
    intro asked member
    obtain ⟨a, answered, rfl⟩ := List.mem_map.mp member
    obtain ⟨⟨u, incomplete, asked⟩, -⟩ := refuses.answers a answered
    rw [asked]
    exact answer_unread unread incomplete
  · rintro ⟨a, member, accepted⟩
    exact absurd accepted (refuses.answers a member).2

/-! ## All runs -/

theorem OrderedSystem.exec_system (settings : Settings) (id : String) (o : OrderedSystem)
    (actions : List Action) :
    (Machine.exec (OrderedSystem.step settings id) o actions).system =
      Machine.exec (System.step settings) o.system actions := by
  induction actions generalizing o with
  | nil => rfl
  | cons i actions ih => exact ih (o.step settings id i)

/-- In every run in which every PATCH writes what it makes of the row, and none sends after one that
wrote later, the updates come out as if they had been made one after another. -/
theorem updates_serialised (settings : Settings) (id : String) (w : Aws) (actions : List Action)
    (updates : ∀ i ∈ actions, i.Updates id)
    (inStep : Machine.Along (OrderedSystem.step settings id) (OrderedSystem.InStep id) (.init w)
      actions)
    (done : ∀ name, name ∉ (System.after settings w actions).threads) :
    (System.after settings w actions).Serialised id w := by
  have allowed := inStep.and_forall _ updates
  have system := OrderedSystem.exec_system settings id (.init w) actions
  by_cases readable : ∃ configuration, w.Reads id configuration
  · obtain ⟨configuration, reads⟩ := readable
    let first : Register ThreadName UpdateRequest (String × Dict) :=
      ⟨configuration, fun _ => .idle, none, []⟩
    have tracks : Tracks id ⟨w, ∅, [], []⟩ first :=
      ⟨reads, fun _ => .idle, by simp, rfl, by simp [first]⟩
    have serial : Serial UpdateRequest.configure configuration first :=
      Serial.init (s := first) (fun _ => rfl) rfl
    obtain ⟨r, tracks, serial, -⟩ := Machine.exec_invariant (OrderedSystem.step settings id)
      (I := OrderedSystem.Tracked id configuration) (fun s i here ok => here.step ok.2 ok.1)
      ⟨first, tracks, serial, Ranked.init fun _ => rfl⟩ allowed
    rw [system] at tracks
    exact tracks.serialised reads serial done
  · have unread : ∀ configuration, ¬w.Reads id configuration := not_exists.mp readable
    have refuses := Machine.exec_invariant (OrderedSystem.step settings id)
      (I := fun o => o.system.Refuses id w)
      (fun s i here ok => refuses_step unread ok.2 here)
      ⟨rfl, by simp [OrderedSystem.init], by simp [OrderedSystem.init]⟩ allowed
    rw [system] at refuses
    exact refuses.serialised unread

def oneRow : Aws :=
  { Aws.empty with
    instances := update (fun _ => none) "a" (some (InstanceStore.newItem "then" "s" "p" ∅ ∅)) }

def twoPatches (calls : List Nat) : List Action :=
  .start (.update "a" ⟨"s", none, Finmap.singleton "x" (.str "1")⟩ true) 0 "now" ::
  .start (.update "a" ⟨"s", none, Finmap.singleton "y" (.str "2")⟩ true) 1 "now" ::
  calls.map fun serial => .call (.request ⟨"a", serial⟩) .ok

theorem two_patches_serialised :
    (System.after {} oneRow (twoPatches [0, 0, 1, 1, 0, 1])).Serialised "a" oneRow := by
  have idle : (System.after {} oneRow (twoPatches [0, 0, 1, 1, 0, 1])).threads.keys = ∅ := by decide
  refine updates_serialised {} "a" oneRow _ (by decide) (by decide) fun name => ?_
  simp [← Finmap.mem_keys, idle]

theorem updates_not_always_serialised :
    ¬∀ settings id w actions, (∀ i ∈ actions, i.Updates id) →
      (∀ name, name ∉ (System.after settings w actions).threads) →
      (System.after settings w actions).Serialised id w := by
  intro always
  have idle : (System.after {} oneRow (twoPatches [0, 1, 0, 1, 0, 1])).threads.keys = ∅ := by decide
  have serialised := always {} "a" oneRow (twoPatches [0, 1, 0, 1, 0, 1]) (by decide)
    fun name => by simp [← Finmap.mem_keys, idle]
  obtain ⟨order, perm, same⟩ := serialised.row
  have same := same "now"
  obtain rfl | rfl := List.perm_pair.mp perm
  · revert same
    decide
  · revert same
    decide

end Regnant.Osb
