import Regnant.Lib.YamlBlocks
import Regnant.Lib.YamlQuoted

/-!
# Nested mappings in YAML

The fragment of YAML in which templates write a list of mappings of any depth: a key with a scalar
on its line, plain or in double quotes, or with a mapping on the lines that are indented further.
-/

namespace Yaml

inductive Data where
  | scalar (text : Line)
  | mapping (entries : List (Line × Data))

def readScalar (raw : Line) : Option Line :=
  match raw with
  | '\x22' :: rest => do
      let (text, after) ← unquote rest
      if after.all isWhite then some text else none
  | _ => plain [raw]

/-- A line without its indentation, and the lines below it, which are indented further. -/
inductive Tree where
  | node (depth : Nat) (text : Line) (below : List Tree)

def Tree.depth : Tree → Nat
  | .node depth _ _ => depth

def plant (l : Nat × Line) (trees : List Tree) : List Tree :=
  .node l.1 l.2 (trees.takeWhile (l.1 < ·.depth)) :: trees.dropWhile (l.1 < ·.depth)

def forest (ls : List (Nat × Line)) : List Tree :=
  ls.foldr plant []

def level : List Tree → Bool
  | [] => true
  | t :: trees => trees.all (·.depth = t.depth)

mutual

def Tree.read : Tree → Option (Line × Data)
  | .node _ text below => do
      let (key, rest) ← splitKey text
      let key ← readKey key
      match below with
      | [] => (readScalar rest).map fun text => (key, .scalar text)
      | t :: trees =>
          if isSilent rest && level (t :: trees) then
            (readTrees (t :: trees)).map fun entries => (key, .mapping entries)
          else none

def readTrees : List Tree → Option (List (Line × Data))
  | [] => some []
  | t :: trees => do
      let entry ← t.read
      (readTrees trees).map (entry :: ·)

end

def number (l : Line) : Nat × Line :=
  (indent l, l.dropWhile (· = ' '))

/-- The lines of a list from its end: the lines of the item that is not begun yet, and the items. A
hyphen counts as indentation of the first entry. -/
def itemLines : List Line → Option (List (Nat × Line) × List (List (Nat × Line)))
  | [] => some ([], [])
  | l :: ls => do
      let (under, items) ← itemLines ls
      match l with
      | '-' :: ' ' :: entry => some ([], (number (' ' :: ' ' :: entry) :: under) :: items)
      | ' ' :: _ => some (number l :: under, items)
      | _ => none

def readItem (ls : List (Nat × Line)) : Option (List (Line × Data)) :=
  if level (forest ls) then readTrees (forest ls) else none

def readItems (ls : List Line) : Option (List (List (Line × Data))) := do
  let (under, items) ← itemLines ls
  if under.isEmpty then items.mapM readItem else none

def parseTree (text : List Char) : Option (List (List (Line × Data))) :=
  if text.all isLegal then readItems ((lines text).filter (!isSilent ·)) else none

end Yaml
