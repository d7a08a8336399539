import Regnant.Osb.Broker

/-!
# The numbers of the table

The rows of `Aws` are what the tables hold. boto3 writes the integers of a dictionary as numbers,
hands every number out as a `Decimal`, and refuses floats. `json.dumps` refuses a `Decimal`, and a
response shows one as a string. Only the routes that hand on what they read from a row depend on
this; the worker hands on what a message carries.
-/

namespace Regnant.Osb

inductive PyValue where
  | none
  | bool (b : Bool)
  | int (n : Int)
  | float (x : PyFloat)
  | decimal (n : Int)
  | str (s : String)
  | list (items : List PyValue)
  | dict (items : List (String × PyValue))

mutual

def Value.load (number : Int → PyValue) : Value → PyValue
  | .none => .none
  | .bool b => .bool b
  | .int n => number n
  | .float x => .float x
  | .str s => .str s
  | .list items => .list (loadItems number items)
  | .dict items => .dict (loadMembers number items)

def Value.loadItems (number : Int → PyValue) : List Value → List PyValue
  | [] => []
  | v :: items => v.load number :: loadItems number items

def Value.loadMembers (number : Int → PyValue) : List (String × Value) → List (String × PyValue)
  | [] => []
  | (key, v) :: items => (key, v.load number) :: loadMembers number items

end

mutual

/-- What is written for the value; `none` stands for a `TypeError`. -/
def PyValue.write (decimal : Int → Option Value) (float : PyFloat → Option Value) :
    PyValue → Option Value
  | .none => some .none
  | .bool b => some (.bool b)
  | .int n => some (.int n)
  | .float x => float x
  | .decimal n => decimal n
  | .str s => some (.str s)
  | .list items => (writeItems decimal float items).map .list
  | .dict items => (writeMembers decimal float items).map .dict

def PyValue.writeItems (decimal : Int → Option Value) (float : PyFloat → Option Value) :
    List PyValue → Option (List Value)
  | [] => some []
  | v :: items =>
      (v.write decimal float).bind fun x => (writeItems decimal float items).map (x :: ·)

def PyValue.writeMembers (decimal : Int → Option Value) (float : PyFloat → Option Value) :
    List (String × PyValue) → Option (List (String × Value))
  | [] => some []
  | (key, v) :: items =>
      (v.write decimal float).bind fun x =>
        (writeMembers decimal float items).map ((key, x) :: ·)

end

abbrev Value.fromJson : Value → PyValue := Value.load .int

abbrev Value.fromTable : Value → PyValue := Value.load .decimal

abbrev PyValue.toTable : PyValue → Option Value :=
  PyValue.write (fun n => some (.int n)) fun _ => Option.none

abbrev PyValue.toJson : PyValue → Option Value :=
  PyValue.write (fun _ => Option.none) fun x => some (.float x)

abbrev PyValue.toResponse : PyValue → Option Value :=
  PyValue.write (fun n => some (.str (toString n))) fun x => some (.float x)

abbrev PyDict := Finmap fun _ : String => PyValue

def Dict.read (f : Value → PyValue) (d : Dict) : PyDict :=
  Finmap.filterMapValues (fun v => some (f v)) d

def PyDict.merge (a b : PyDict) : PyDict := b ∪ a

def PyDict.write (f : PyValue → Option Value) (d : PyDict) : Handler Dict :=
  match Finmap.traverse f d with
  | some written => return written
  | none => .raise .typeError

/-! ## Floats -/

mutual

def Value.all (int : Int → Bool) (float : PyFloat → Bool) : Value → Bool
  | .int n => int n
  | .float x => float x
  | .list items => allItems int float items
  | .dict items => allMembers int float items
  | _ => true

def Value.allItems (int : Int → Bool) (float : PyFloat → Bool) : List Value → Bool
  | [] => true
  | v :: items => v.all int float && allItems int float items

def Value.allMembers (int : Int → Bool) (float : PyFloat → Bool) : List (String × Value) → Bool
  | [] => true
  | (_, v) :: items => v.all int float && allMembers int float items

end

def Value.FloatFree (v : Value) : Prop :=
  v.all (fun _ => true) (fun _ => false)
  deriving Decidable

def Value.IntFree (v : Value) : Prop :=
  v.all (fun _ => false) (fun _ => true)
  deriving Decidable

def Dict.FloatFree (d : Dict) : Prop :=
  ∀ e ∈ d.entries, e.2.FloatFree
  deriving Decidable

def Dict.IntFree (d : Dict) : Prop :=
  ∀ e ∈ d.entries, e.2.IntFree
  deriving Decidable

def Call.Storable : Call → Prop
  | .putInstance _ item =>
      (item.parameters.getD ∅).FloatFree ∧ (item.context.getD ∅).FloatFree
  | .updateInstance _ u => (u.parameters.getD ∅).FloatFree
  | .putBinding _ _ item => (item.parameters.getD ∅).FloatFree
  | _ => True

instance : DecidablePred Call.Storable
  | .putInstance _ _ => inferInstanceAs (Decidable (_ ∧ _))
  | .updateInstance _ u => inferInstanceAs (Decidable (u.parameters.getD ∅).FloatFree)
  | .putBinding _ _ item => inferInstanceAs (Decidable (item.parameters.getD ∅).FloatFree)
  | .getInstance _ | .deleteInstance _ | .getBinding _ _ | .updateBinding _ _ _
  | .deleteBinding _ _ | .putObject _ _ | .deleteObject _ | .sendMessage _ _
  | .deleteMessage _ _ => inferInstanceAs (Decidable True)

/-! ## The routes that read dictionaries from a row -/

namespace Codec

def perform (self : ExecutionName) (c : Call) (w : Aws) : Except Exn c.Result × Aws :=
  if c.Storable then Osb.perform self c w else (.error .typeError, w)

def updateInstance (now instanceId : String) (payload : UpdateRequest)
    (acceptsIncomplete : Bool) : Handler Body :=
  if !acceptsIncomplete then
    osbError .asyncRequired "updates are asynchronous; pass accepts_incomplete=true"
  else do
    let inst ← InstanceStore.get instanceId
    let parameters :=
      (inst.parameters.read Value.fromTable).merge (payload.parameters.read Value.fromJson)
    InstanceStore.transition instanceId
      { state := .updating
        updatedAt := now
        description := "update queued"
        operation := "update"
        planId := planOr payload.planId inst.planId
        parameters := ← parameters.write PyValue.toTable }
    TaskQueue.send .provision (.update instanceId payload.serviceId
      (planOr payload.planId inst.planId) (← parameters.write PyValue.toJson))
    return .operation "update"

def fetchInstance (instanceId : String) : Handler Body := do
  let inst ← InstanceStore.get instanceId
  return .fetchInstance inst.serviceId inst.planId inst.dashboardUrl
    (← (inst.parameters.read Value.fromTable).write PyValue.toResponse)

def fetchBinding (instanceId bindingId : String) : Handler Body := do
  let binding ← BindingStore.get bindingId instanceId
  return .fetchBinding
    (if binding.credentials = {} then none else some (.ofStored binding.credentials))
    (← (binding.parameters.read Value.fromTable).write PyValue.toResponse)

def app (now : String) : Request → Handler Response
  | .update id payload acceptsIncomplete =>
      respond 202 (updateInstance now id payload acceptsIncomplete)
  | .fetchInstance id => respond 200 (fetchInstance id)
  | .fetchBinding id bid => respond 200 (fetchBinding id bid)
  | request => Osb.app now request

def answer (w : Aws) (self : ExecutionName) (now : String) (request : Request) :
    Response × Aws :=
  match (app now request).run (perform self) w with
  | (.ok response, w') => (response, w')
  | (.error _, w') => (⟨500, .serverError⟩, w')

def step (settings : Settings) (s : Broker) : Step → Broker
  | .request request serial now =>
      let answer := answer s.aws ⟨request.instanceId, serial⟩ now request
      ⟨answer.2, s.history ++ [.answered s.aws request answer.1]⟩
  | .work queue draws =>
      match s.aws.tasks queue with
      | [] => s
      | message :: rest =>
          ⟨((Worker.handle settings queue draws message).run (perform message.receiptHandle)
              (s.aws.setTasks queue rest)).2,
            s.history ++ [.handled s.aws queue message]⟩

abbrev after (settings : Settings) (steps : List Step) : Broker :=
  Machine.exec (step settings) .init steps

end Codec

end Regnant.Osb
