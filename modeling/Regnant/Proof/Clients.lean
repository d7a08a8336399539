import Regnant.Proof.Answers
import Regnant.Proof.Documents
import Regnant.Sdk.Client

namespace Regnant.Osb
open Schema

def Dict.ofMembers (items : List (String × Value)) : Dict :=
  (items.map fun m => (⟨m.1, m.2⟩ : Σ _ : String, Value)).toFinmap

end Regnant.Osb

namespace Regnant.Sdk
open Osb Schema

/-- The resource of a bind call has no members but the two that the server knows, with strings or
null. -/
def Call.Known : Call → Prop
  | .bind _ _ request => ∀ resource ∈ request.bindResource, (Value.dict resource).IsBindResource
  | _ => True

section Received
variable {json : Value → Option Value} {call : Call}

end Received

inductive Call.Tells : Call → Body → Result → Prop where
  | provision {id request operation} :
      Tells (.provision id request) (.operation operation) (.provision ⟨none, some operation⟩)
  | deprovision {id service plan operation} :
      Tells (.deprovision id service plan) (.operation operation) .none
  | lastOperation {id state description} :
      Tells (.lastOperation id) (.lastOperation state description)
        (.lastOperation ⟨state.text, description⟩)
  | bind {id bid request credentials} :
      Tells (.bind id bid request) (.bind credentials) (.bind ⟨credentials, none⟩)
  | unbind {id bid service plan operation} :
      Tells (.unbind id bid service plan) (.operation operation) .none

end Regnant.Sdk
