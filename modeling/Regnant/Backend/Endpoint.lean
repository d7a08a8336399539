import Mathlib.Logic.Function.Basic
import Regnant.Lib.CallTree
import Regnant.Lib.Dictionary

/-!
# Endpoints over dictionaries

A backend keeps its objects in dictionaries of its process. Endpoints run on threads of their own;
each operation on a dictionary is atomic, and other threads may come between two of them.
-/

namespace Regnant.Backend
open CallTree

section
variable (ι : Type) (K V : ι → Type)

abbrev Store :=
  (c : ι) → Dictionary (K c) (V c)

inductive Call where
  | contains (c : ι) (key : K c)
  | values (c : ι)
  | iter (c : ι)
  | next (c : ι) (it : Dictionary.Iterator)
  | set (c : ι) (key : K c) (value : V c)

inductive Exn where
  | httpException (status : Nat) (detail : String)
  | runtimeError (message : String)
  deriving DecidableEq

end

variable {ι : Type} {K V : ι → Type}

def Call.Result : Call ι K V → Type
  | .contains _ _ => Bool
  | .values c => List (V c)
  | .iter _ => Dictionary.Iterator
  | .next c _ => Option (V c × Dictionary.Iterator)
  | .set _ _ _ => Unit

abbrev Handler (ι : Type) (K V : ι → Type) (α : Type) :=
  CallTree (Call ι K V) Call.Result Exn α

namespace Dictionaries

def contains (c : ι) (key : K c) : Handler ι K V Bool := invoke (Call.contains c key)
def values (c : ι) : Handler ι K V (List (V c)) := invoke (Call.values c)
def iter (c : ι) : Handler ι K V Dictionary.Iterator := invoke (Call.iter c)
def set (c : ι) (key : K c) (value : V c) : Handler ι K V Unit := invoke (Call.set c key value)

end Dictionaries

def changedSize : Exn :=
  .runtimeError "dictionary changed size during iteration"

section
variable [DecidableEq ι] [∀ c, DecidableEq (K c)]

def perform : (c : Call ι K V) → Store ι K V → Except Exn c.Result × Store ι K V
  | .contains c key, s => (.ok (decide (key ∈ (s c).keys)), s)
  | .values c, s => (.ok (s c).values, s)
  | .iter c, s => (.ok (s c).iter, s)
  | .next c it, s => (((s c).next it).elim (.error changedSize) .ok, s)
  | .set c key value, s => (.ok (), Function.update s c ((s c).set key value))

end

/-- The values that `[v for v in dictionary.values() if keep(v)]` keeps from an iterator on. No
iterator gives more than `fuel` values. -/
def comprehension (c : ι) (keep : V c → Bool) :
    Nat → Dictionary.Iterator → List (V c) → Handler ι K V (List (V c))
  | 0, _, kept => .ret kept
  | fuel + 1, it, kept =>
      .call (.next c it) fun
        | .error e => .raise e
        | .ok none => .ret kept
        | .ok (some (value, it)) =>
            comprehension c keep fuel it (if keep value then kept ++ [value] else kept)

inductive Endpoint (ι : Type) (K V : ι → Type) (Body : Type) where
  | list (c : ι) (body : List (V c) → Body)
  | listWhere (c : ι) (keep : V c → Bool) (body : List (V c) → Body)
  | create (c : ι) (key : K c) (value : V c) (body : Body)
  | createIn (parent : ι) (id : K parent) (detail : String) (c : ι) (key : K c) (value : V c)
      (body : Body)

variable {Body : Type}

def Endpoint.handler : Endpoint ι K V Body → Handler ι K V Body
  | .list c body => do
      let values ← Dictionaries.values c
      return body values
  | .listWhere c keep body => do
      let it ← Dictionaries.iter c
      let kept ← comprehension c keep (it.used + 1) it []
      return body kept
  | .create c key value body => do
      Dictionaries.set c key value
      return body
  | .createIn parent id detail c key value body => do
      let known ← Dictionaries.contains parent id
      if known then
        Dictionaries.set c key value
        return body
      else .raise (.httpException 404 detail)

variable [DecidableEq ι] [∀ c, DecidableEq (K c)]

def Endpoint.serve (s : Store ι K V) : Endpoint ι K V Body → Except Exn Body × Store ι K V
  | .list c body => (.ok (body (s c).values), s)
  | .listWhere c keep body => (.ok (body ((s c).values.filter keep)), s)
  | .create c key value body => (.ok body, Function.update s c ((s c).set key value))
  | .createIn parent id detail c key value body =>
      if id ∈ (s parent).keys then (.ok body, Function.update s c ((s c).set key value))
      else (.error (.httpException 404 detail), s)

end Regnant.Backend
