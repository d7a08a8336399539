import Regnant.Cli.Commands
import Regnant.Proof.Clients
import Regnant.Proof.Served

namespace Regnant.Osb

end Regnant.Osb

namespace Regnant.Cli
open Osb

theorem create_received (id : Segment) (user service plan : String) (product : Option String) :
    (BrokerCall.provision id (createBody user service plan product)).received =
      some (.provision id ⟨service, plan,
        .ofMembers [("platform", .str "regnant"), ("user", .str user)],
        match product with
        | some product => .ofMembers [("upstream", .dict [
            ("host", .str s!"backend-{product}-clone"), ("port", .int 8080)])]
        | none => .ofMembers []⟩ true) := by
  cases product <;> rfl

theorem bind_received (id bid : Segment) (app service plan : String) :
    (BrokerCall.bind id bid (bindBody app service plan)).received =
      some (.bind id bid ⟨service, plan, .ofMembers [("app", .str app)]⟩) :=
  rfl

theorem lb_received (user : String) (uuid : Segment) (command : LbCommand) :
    ∀ call ∈ lb user uuid command, call.received.isSome = true := by
  cases command with
  | create => simp [lb, create_received]
  | bind => simp [lb, bind_received]
  | _ => simp [lb, BrokerCall.received]

/-! ## From the command to the bucket -/

end Regnant.Cli
