import Regnant.Lib.YamlBlocks
import Mathlib.Data.List.Sort
import Regnant.Osb.Xds
import Regnant.Sovereign.Templates

namespace Regnant.Sovereign
open Osb

/-- `str` is Python's text of a value that is not a string, `escape` what the environment prints
for a character, `json` the text of the filter `tojson`. -/
def valueJinja (escape : Char → Yaml.Line) (str json : Value → Option String) : Jinja Value where
  get := fun v =>
    match v with
    | .dict items => some fun key => items.lookup key
    | _ => none
  iter := fun v =>
    match v with
    | .list items => some items
    | .dict items => some (items.map fun m => .str m.1)
    | .str s => some (s.toList.map fun c => .str (String.ofList [c]))
    | _ => none
  attr := fun v name =>
    match v with
    | .dict items => items.lookup name
    | _ => none
  text := fun v =>
    match v with
    | .str s => some s
    | v => str v
  print := fun s => String.ofList (s.toList.flatMap escape)
  truthy := Value.truthy
  tojson := json

def marks : List Char :=
  ['&', '<', '>', '\x27', '\x22']

/-- Nothing but the marks of HTML is escaped, by texts without blanks. -/
structure EscapesMarks (escape : Char → Yaml.Line) : Prop where
  others : ∀ c ∉ marks, escape c = [c]
  words : ∀ c ∈ marks, ∀ d ∈ escape c, Yaml.isWhite d = false ∧ Yaml.isBreak d = false

def Unescaped (escape : Char → Yaml.Line) (s : String) : Prop :=
  s.toList.flatMap escape = s.toList

instance (escape : Char → Yaml.Line) (s : String) : Decidable (Unescaped escape s) :=
  inferInstanceAs (Decidable (_ = _))

def resources (template : Template) (document : Value) : List Value :=
  document.select [.key template.key, .each]

def members : Value → List (String × Value)
  | .dict items => items
  | _ => []

mutual

def sortKeys : Value → Value
  | .list items => .list (sortItems items)
  | .dict items => .dict ((sortMembers items).insertionSort fun a b => a.1 ≤ b.1)
  | v => v

def sortItems : List Value → List Value
  | [] => []
  | v :: items => sortKeys v :: sortItems items

def sortMembers : List (String × Value) → List (String × Value)
  | [] => []
  | (key, v) :: items => (key, sortKeys v) :: sortMembers items

end

def Same (v w : Value) : Prop :=
  sortKeys v = sortKeys w
  deriving Decidable

def isCollection : Value → Bool
  | .list _ => true
  | .dict _ => true
  | _ => false

/-- The filter `tojson` writes one line of printable characters, a collection in brackets. -/
structure WritesLines (json : Value → Option String) : Prop where
  chars : ∀ v t, json v = some t → ∀ c ∈ t.toList, 0x20 ≤ c.toNat ∧ c.toNat ≤ 0x7e
  bracket : ∀ v t, isCollection v = true → json v = some t →
    t.toList.head? = some '[' ∨ t.toList.head? = some '\x7b'

def Readable (json : Value → Option String) (flow : Yaml.Line → Option Value) (v : Value) : Prop :=
  ∃ text w, json v = some text ∧ flow text.toList = some w

def Kept (json : Value → Option String) (flow : Yaml.Line → Option Value) (v : Value) : Prop :=
  ∃ text w, json v = some text ∧ flow text.toList = some w ∧ Same w v

def Collections (p : Value → Prop) (resource : Value) : Prop :=
  ∀ m ∈ members resource, m.1 ≠ "transport_socket_matches" → isCollection m.2 = true → p m.2

end Regnant.Sovereign
