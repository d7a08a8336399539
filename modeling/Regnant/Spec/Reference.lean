import Regnant.Osb.Broker

/-!
# The synchronous broker

What the broker is for: a store of instance records and of the documents published for them, in
which every request takes effect at once.
-/

namespace Regnant.Osb
open Function (update)

structure Record where
  serviceId : String
  planId : String
  parameters : Dict
  context : Dict
  deriving DecidableEq

structure Reference where
  records : String → Option Record
  published : String → Option Value

namespace Reference

def init : Reference where
  records := fun _ => none
  published := fun _ => none

def notFound (id : String) : Response :=
  ⟨404, .error "InstanceNotFound" s!"instance {id} not found"⟩

def publish (r : Reference) (id serviceId : String) (record : Record) : Reference where
  records := update r.records id (some record)
  published := update r.published id
    (renderResources id serviceId record.planId record.parameters).toOption

def remove (r : Reference) (id : String) : Reference where
  records := update r.records id none
  published := update r.published id none

def patched (record : Record) (payload : UpdateRequest) : Record :=
  { record with
    planId := (payload.planId.filter (· ≠ "")).getD record.planId
    parameters := payload.parameters ∪ record.parameters }

theorem lookup_patched (record : Record) (payload : UpdateRequest) (key : String) :
    (patched record payload).parameters.lookup key =
      (payload.parameters.lookup key).or (record.parameters.lookup key) :=
  Finmap.lookup_union_or payload.parameters record.parameters key

def step (r : Reference) : InstanceRequest → Response × Reference
  | .put id payload =>
      match r.records id with
      | none =>
          (⟨202, .operation "provision"⟩, r.publish id payload.serviceId
            ⟨payload.serviceId, payload.planId, payload.parameters, payload.context⟩)
      | some record =>
          if record.serviceId = payload.serviceId ∧ record.planId = payload.planId then
            (⟨202, .operation "provision"⟩, r)
          else
            (⟨409, .error "Conflict"
              s!"instance {id.val} already exists with different parameters"⟩, r)
  | .patch id payload =>
      match r.records id with
      | none => (notFound id, r)
      | some record =>
          (⟨202, .operation "update"⟩, r.publish id payload.serviceId (patched record payload))
  | .delete id serviceId planId =>
      match r.records id with
      | none => (notFound id, r)
      | some record =>
          if record.serviceId = serviceId ∧ record.planId = planId then
            (⟨200, .operation "deprovision"⟩, r.remove id)
          else
            (⟨400, .error "BadRequest"
              "service_id/plan_id mismatch with the existing instance"⟩, r)

def serve (r : Reference) (round : Round) : Response × Reference :=
  r.step round.request

def Renders (r : Reference) : InstanceRequest → Prop
  | .put id payload =>
      r.records id = none → Osb.Renders id payload.serviceId payload.planId payload.parameters
  | .patch id payload =>
      ∀ record ∈ r.records id, Osb.Renders id payload.serviceId (patched record payload).planId
        (patched record payload).parameters
  | .delete _ _ _ => True

instance Renders.decidable (r : Reference) : ∀ request, Decidable (r.Renders request)
  | .put id payload =>
      inferInstanceAs (Decidable (r.records id = none →
        Osb.Renders id payload.serviceId payload.planId payload.parameters))
  | .patch id payload =>
      inferInstanceAs (Decidable (∀ record ∈ r.records id,
        Osb.Renders id payload.serviceId (patched record payload).planId
          (patched record payload).parameters))
  | .delete _ _ _ => inferInstanceAs (Decidable True)

end Reference

end Regnant.Osb
