import Regnant.Osb.Schemas

namespace Regnant.Cli
open Osb

inductive LbCommand where
  | create (service plan : String) (instanceId : Option Segment) (product : Option String)
  | list
  | status (instanceId : Segment)
  | delete (instanceId service plan : Segment)
  | bind (instanceId : Segment) (app service plan : String)
  | unbind (instanceId binding service plan : Segment)

structure ProvisionBody where
  serviceId : String
  planId : String
  context : Value
  parameters : Value

structure BindBody where
  serviceId : String
  planId : String
  parameters : Value
  bindResource : Option Value

def unlessNull (name : String) : Value → List (String × Value)
  | .none => []
  | v => [(name, v)]

def ProvisionBody.serialize (body : ProvisionBody) : Value :=
  .dict ([("service_id", .str body.serviceId), ("plan_id", .str body.planId)] ++
    unlessNull "context" body.context ++ unlessNull "parameters" body.parameters)

def BindBody.serialize (body : BindBody) : Value :=
  .dict ([("service_id", .str body.serviceId), ("plan_id", .str body.planId)] ++
    unlessNull "parameters" body.parameters ++
    (body.bindResource.map fun resource => ("bind_resource", resource)).toList)

inductive BrokerCall where
  | provision (instanceId : Segment) (body : ProvisionBody)
  | fetch (instanceId : Segment)
  | lastOperation (instanceId : Segment)
  | deprovision (instanceId service plan : Segment)
  | bind (instanceId binding : Segment) (body : BindBody)
  | unbind (instanceId binding service plan : Segment)

def BrokerCall.received : BrokerCall → Option Request
  | .provision id body => (ProvisionRequest.parse body.serialize).map (.provision id · true)
  | .fetch id => some (.fetchInstance id)
  | .lastOperation id => some (.instanceLastOperation id)
  | .deprovision id service plan => some (.deprovision id service plan true)
  | .bind id bid body => (BindRequest.parse body.serialize).map (.bind id bid ·)
  | .unbind id bid service plan => some (.unbind id bid service plan)

def createBody (user service plan : String) (product : Option String) : ProvisionBody where
  serviceId := service
  planId := plan
  context := .dict [("platform", .str "regnant"), ("user", .str user)]
  parameters :=
    match product with
    | some product =>
        .dict [("upstream", .dict [("host", .str s!"backend-{product}-clone"),
          ("port", .int 8080)])]
    | none => .dict []

def bindBody (app service plan : String) : BindBody where
  serviceId := service
  planId := plan
  parameters := .dict [("app", .str app)]
  bindResource := some (.dict [("app_guid", .str app)])

def lb (user : String) (uuid : Segment) : LbCommand → List BrokerCall
  | .create service plan instanceId product =>
      [.provision (instanceId.getD uuid) (createBody user service plan product)]
  | .list => []
  | .status instanceId => [.fetch instanceId, .lastOperation instanceId]
  | .delete instanceId service plan => [.deprovision instanceId service plan]
  | .bind instanceId app service plan => [.bind instanceId uuid (bindBody app service plan)]
  | .unbind instanceId binding service plan => [.unbind instanceId binding service plan]

end Regnant.Cli
