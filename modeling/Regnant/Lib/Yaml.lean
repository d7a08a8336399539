import Mathlib.Data.List.DropRight
import Mathlib.Data.List.Lemmas

/-!
# Block sequences of mappings in YAML

The fragment of YAML in which templates write lists of resources: `- key: value` begins a mapping,
a line indented by two blanks goes on with it. A value is a plain scalar, on one line or on
several that are indented further, or begins with a bracket and is left to a reader of flow
collections. Text outside the fragment is not read.
-/

namespace Yaml

abbrev Line := List Char

/-- The characters of a line are checked one by one, not all characters that there are. -/
scoped instance (priority := 2000) {p : Char → Prop} [DecidablePred p] (l : Line) :
    Decidable (∀ c ∈ l, p c) :=
  List.decidableBAll p l

def isBreak (c : Char) : Bool :=
  c.toNat ∈ [0x0a, 0x0d, 0x85, 0x2028, 0x2029]

def isWhite (c : Char) : Bool :=
  c = ' ' || c = '\t'

def isLegal (c : Char) : Bool :=
  let n := c.toNat
  n ∈ [0x09, 0x0a, 0x0d, 0x85] || (0x20 ≤ n && n ≤ 0x7e) || (0xa0 ≤ n && n ≤ 0xfffd) || 0x10000 ≤ n

def indicators : List Char :=
  ['-', '?', ':', ',', '[', ']', '\x7b', '\x7d', '#', '&', '*', '!', '|', '>', '\x27', '\x22', '%',
   '@', '\x60']

def consHead (c : Char) : List Line → List Line
  | [] => [[c]]
  | l :: ls => (c :: l) :: ls

def lines : List Char → List Line
  | [] => [[]]
  | c :: cs =>
      if c = '\r' ∧ cs.head? = some '\n' then lines cs
      else if isBreak c then [] :: lines cs
      else consHead c (lines cs)

def isBlank (l : Line) : Bool :=
  l.all isWhite

/-- The text before a comment, which begins with a number sign at the start of the line or after a
blank, and whether there is one. -/
def uncomment (afterWhite : Bool) : Line → Line × Bool
  | [] => ([], false)
  | c :: cs =>
      if c = '#' && afterWhite then ([], true)
      else
        match uncomment (isWhite c) cs with
        | (text, commented) => (c :: text, commented)

def isSilent (l : Line) : Bool :=
  isBlank (uncomment true l).1

def indent (l : Line) : Nat :=
  (l.takeWhile (· = ' ')).length

inductive LineKind where
  | first (entry : Line)
  | next (entry : Line)
  | more
  | foreign
  deriving DecidableEq

def kind (l : Line) : LineKind :=
  if isSilent l || 3 ≤ indent l then .more
  else
    match l with
    | '-' :: ' ' :: entry => if indent entry = 0 then .first entry else .foreign
    | ' ' :: ' ' :: entry => .next entry
    | _ => .foreign

/-! ## Plain scalars -/

def plainStart : Line → Bool
  | [] => false
  | [c] => !isWhite c && c ∉ indicators
  | c :: d :: _ => !isWhite c && (c ∉ indicators || (c ∈ ['-', '?', ':'] && !isWhite d))

def endsKey : Line → Bool
  | [] => false
  | [c] => c = ':'
  | c :: d :: cs => (c = ':' && isWhite d) || endsKey (d :: cs)

def trim (l : Line) : Line :=
  (l.dropWhile isWhite).rdropWhile isWhite

def texts : List Line → Option (List Line)
  | [] => some []
  | l :: ls =>
      if endsKey (trim (uncomment true l).1) then none
      else if (uncomment true l).2 then
        if ls.all isSilent then some [trim (uncomment true l).1] else none
      else (texts ls).map (trim (uncomment true l).1 :: ·)

def fold (blanks : Nat) : List Line → Line
  | [] => []
  | [] :: ls => fold (blanks + 1) ls
  | (c :: l) :: ls =>
      (if blanks = 0 then [' '] else List.replicate blanks '\n') ++ c :: l ++ fold 0 ls

def plain (ls : List Line) : Option Line := do
  match (← texts ls).dropWhile (·.isEmpty) with
  | [] => none
  | l :: more => if plainStart l then some (l ++ fold 0 more) else none

/-! ## Mappings -/

structure Entry where
  head : Line
  more : List Line

inductive Node (V : Type) where
  | scalar (text : Line)
  | flow (v : V)

def splitKey : Line → Option (Line × Line)
  | [] => none
  | [c] => if c = ':' then some ([], []) else none
  | c :: d :: cs =>
      if c = ':' && isWhite d then some ([], (d :: cs).dropWhile isWhite)
      else (splitKey (d :: cs)).map fun p => (c :: p.1, p.2)

def readKey : Line → Option Line
  | [] => none
  | c :: cs =>
      if c = '\x22' then
        if cs.getLast? = some '\x22' ∧ cs.count '\x22' = 1 ∧ '\x5c' ∉ cs then some cs.dropLast
        else none
      else if plainStart (c :: cs) && !(uncomment true (c :: cs)).2 then
        some ((c :: cs).rdropWhile isWhite)
      else none

section
variable {V : Type} (flow : Line → Option V)

def readNode (rest : Line) (more : List Line) : Option (Node V) :=
  if rest.head? = some '[' ∨ rest.head? = some '\x7b' then
    if more.all isSilent then (flow rest).map .flow else none
  else (plain (rest :: more)).map .scalar

def readEntry (e : Entry) : Option (Line × Node V) := do
  let (key, rest) ← splitKey e.head
  some (← readKey key, ← readNode flow rest e.more)

/-- The lines of a document from its end: the lines that go on with an entry before them, the
entries that go on with a mapping before them, and the mappings. -/
def group : List Line → Option (List Line × List Entry × List (List Entry))
  | [] => some ([], [], [])
  | l :: ls => do
      let (more, entries, mappings) ← group ls
      match kind l with
      | .more => some (l :: more, entries, mappings)
      | .next head => some ([], ⟨head, more⟩ :: entries, mappings)
      | .first head => some ([], [], (⟨head, more⟩ :: entries) :: mappings)
      | .foreign => none

def items (ls : List Line) : Option (List (List Entry)) := do
  let (more, entries, mappings) ← group ls
  if more.all isSilent ∧ entries.isEmpty then some mappings else none

abbrev Mapping (V : Type) := List (Line × Node V)

def parse (text : List Char) : Option (List (Mapping V)) :=
  if text.all isLegal then (items (lines text)).bind (·.mapM (·.mapM (readEntry flow))) else none

def Mapping.get {V : Type} (m : Mapping V) (key : Line) : Option (Node V) :=
  m.reverse.lookup key

end

structure PlainSafe (x : Line) : Prop where
  chars : ∀ c ∈ x, isLegal c = true ∧ isBreak c = false
  start : plainStart x = true
  value : endsKey x = false
  comment : (uncomment true x).2 = false
  trimmed : trim x = x

instance (x : Line) : Decidable (PlainSafe x) :=
  decidable_of_iff
    ((∀ c ∈ x, isLegal c = true ∧ isBreak c = false) ∧ plainStart x = true ∧ endsKey x = false ∧
      (uncomment true x).2 = false ∧ trim x = x)
    ⟨fun ⟨chars, start, value, comment, trimmed⟩ => ⟨chars, start, value, comment, trimmed⟩,
      fun ⟨chars, start, value, comment, trimmed⟩ => ⟨chars, start, value, comment, trimmed⟩⟩

end Yaml
