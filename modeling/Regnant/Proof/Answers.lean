import Regnant.Proof.Contracts

namespace Regnant.Osb
open CallTree

inductive Request.Answers : Request → Body → Prop where
  | provision {id payload incomplete} :
      Answers (.provision id payload incomplete) (.operation "provision")
  | update {id payload incomplete} : Answers (.update id payload incomplete) (.operation "update")
  | deprovision {id service plan incomplete} :
      Answers (.deprovision id service plan incomplete) (.operation "deprovision")
  | fetchInstance {id service plan url parameters} :
      Answers (.fetchInstance id) (.fetchInstance service plan url parameters)
  | instanceLastOperation {id state description} :
      Answers (.instanceLastOperation id) (.lastOperation state description)
  | bind {id bid payload credentials} : Answers (.bind id bid payload) (.bind credentials)
  | unbind {id bid service plan} : Answers (.unbind id bid service plan) (.operation "unbind")
  | fetchBinding {id bid credentials parameters} :
      Answers (.fetchBinding id bid) (.fetchBinding credentials parameters)
  | bindingLastOperation {id bid state description} :
      Answers (.bindingLastOperation id bid) (.lastOperation state description)

abbrev Only {α : Type} (Q : α → Prop) (t : Handler α) : Prop :=
  t.Meets ⟨fun _ => True, fun _ _ => True⟩ Q

section
variable {now id bid service plan : String} {incomplete : Bool}

end

end Regnant.Osb
