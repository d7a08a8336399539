import Mathlib.Data.Rat.Defs
import Regnant.Lib.Finmap
import Regnant.Osb.Exceptions

namespace Regnant.Osb

inductive PyFloat where
  | finite (q : ℚ)
  | inf (negative : Bool)
  | nan
  deriving DecidableEq

/-- What `json.loads` builds and `yaml.safe_dump` writes. -/
inductive Value where
  | none
  | bool (b : Bool)
  | int (n : Int)
  | float (x : PyFloat)
  | str (s : String)
  | list (items : List Value)
  | dict (items : List (String × Value))

namespace Value

mutual

def beq : Value → Value → Bool
  | .none, .none => true
  | .bool a, .bool b => decide (a = b)
  | .int a, .int b => decide (a = b)
  | .float a, .float b => decide (a = b)
  | .str a, .str b => decide (a = b)
  | .list as, .list bs => beqItems as bs
  | .dict as, .dict bs => beqMembers as bs
  | _, _ => false

def beqItems : List Value → List Value → Bool
  | [], [] => true
  | a :: as, b :: bs => beq a b && beqItems as bs
  | _, _ => false

def beqMembers : List (String × Value) → List (String × Value) → Bool
  | [], [] => true
  | (k, a) :: as, (l, b) :: bs => decide (k = l) && beq a b && beqMembers as bs
  | _, _ => false

end

mutual

theorem beq_iff : ∀ a b : Value, beq a b = true ↔ a = b
  | .none, b => by cases b <;> simp [beq]
  | .bool a, b => by cases b <;> simp [beq]
  | .int a, b => by cases b <;> simp [beq]
  | .float a, b => by cases b <;> simp [beq]
  | .str a, b => by cases b <;> simp [beq]
  | .list as, b => by
      cases b with
      | list bs => simp [beq, beqItems_iff as bs]
      | _ => simp [beq]
  | .dict as, b => by
      cases b with
      | dict bs => simp [beq, beqMembers_iff as bs]
      | _ => simp [beq]

theorem beqItems_iff : ∀ as bs : List Value, beqItems as bs = true ↔ as = bs
  | [], bs => by cases bs <;> simp [beqItems]
  | a :: as, bs => by
      cases bs with
      | nil => simp [beqItems]
      | cons b bs => simp [beqItems, beq_iff a b, beqItems_iff as bs]

theorem beqMembers_iff : ∀ as bs : List (String × Value), beqMembers as bs = true ↔ as = bs
  | [], bs => by cases bs <;> simp [beqMembers]
  | (k, a) :: as, bs => by
      cases bs with
      | nil => simp [beqMembers]
      | cons b bs =>
          obtain ⟨l, b⟩ := b
          simp [beqMembers, beq_iff a b, beqMembers_iff as bs]

end

instance : DecidableEq Value := fun a b => decidable_of_iff _ (beq_iff a b)

def truthy : Value → Bool
  | .none => false
  | .bool b => b
  | .int n => decide (n ≠ 0)
  | .float x => decide (x ≠ .finite 0)
  | .str s => decide (s ≠ "")
  | .list items => !items.isEmpty
  | .dict items => !items.isEmpty

def item (v : Value) (key : String) : Except Exn Value :=
  match v with
  | .dict items =>
      match items.lookup key with
      | some x => .ok x
      | Option.none => .error (.keyError key)
  | _ => .error .typeError

def zeros : List Nat :=
  [0x30, 0x660, 0x6f0, 0x7c0, 0x966, 0x9e6, 0xa66, 0xae6, 0xb66, 0xbe6, 0xc66, 0xce6, 0xd66, 0xde6,
   0xe50, 0xed0, 0xf20, 0x1040, 0x1090, 0x17e0, 0x1810, 0x1946, 0x19d0, 0x1a80, 0x1a90, 0x1b50,
   0x1bb0, 0x1c40, 0x1c50, 0xa620, 0xa8d0, 0xa900, 0xa9d0, 0xa9f0, 0xaa50, 0xabf0, 0xff10, 0x104a0,
   0x10d30, 0x11066, 0x110f0, 0x11136, 0x111d0, 0x112f0, 0x11450, 0x114d0, 0x11650, 0x116c0,
   0x11730, 0x118e0, 0x11950, 0x11c50, 0x11d50, 0x11da0, 0x11f50, 0x16a60, 0x16ac0, 0x16b50,
   0x1d7ce, 0x1d7d8, 0x1d7e2, 0x1d7ec, 0x1d7f6, 0x1e140, 0x1e2f0, 0x1e4f0, 0x1e950, 0x1fbf0]

def digit? (c : Char) : Option Nat :=
  (zeros.find? fun z => z ≤ c.toNat && c.toNat < z + 10).map (c.toNat - ·)

/-- What `int(s)` strips: unlike `str.strip`, no separators of ASCII. -/
def isSpace (c : Char) : Bool :=
  let n := c.toNat
  (9 ≤ n && n ≤ 13) || (0x2000 ≤ n && n ≤ 0x200a) ||
    [0x20, 0x85, 0xa0, 0x1680, 0x2028, 0x2029, 0x202f, 0x205f, 0x3000].contains n

def digits? (cs : List Char) : Option (List Nat) :=
  ((cs.splitOn '_').mapM fun group : List Char =>
    if group.isEmpty then Option.none else group.mapM digit?).map List.flatten

/-- `int(s)` of a string, which takes at most 4300 digits. -/
def intOfString (s : String) : Except Exn Int :=
  let body := ((s.toList.dropWhile isSpace).reverse.dropWhile isSpace).reverse
  let (sign, digits) : Int × List Char :=
    match body with
    | '-' :: cs => (-1, cs)
    | '+' :: cs => (1, cs)
    | cs => (1, cs)
  match digits? digits with
  | Option.none => .error .valueError
  | some ds =>
      if ds.length ≤ 4300 then .ok (sign * (ds.foldl (fun n d => 10 * n + d) 0 : Nat))
      else .error .valueError

def toInt : Value → Except Exn Int
  | .bool b => .ok (if b then 1 else 0)
  | .int n => .ok n
  | .float (.finite q) => .ok (q.num.tdiv q.den)
  | .float (.inf _) => .error .overflowError
  | .float .nan => .error .valueError
  | .str s => intOfString s
  | _ => .error .typeError

example : intOfString " -1_0٢ " = .ok (-102) := by decide +kernel

end Value

abbrev Dict := Finmap fun _ : String => Value

namespace Dict

def merge (a b : Dict) : Dict := b ∪ a

theorem lookup_merge (a b : Dict) (key : String) :
    (a.merge b).lookup key = (b.lookup key).or (a.lookup key) :=
  Finmap.lookup_union_or b a key

@[simp] theorem merge_merge_self (a b : Dict) : (a.merge b).merge b = a.merge b := by
  apply Finmap.ext_lookup
  intro key
  rw [lookup_merge, lookup_merge]
  cases b.lookup key <;> rfl

end Dict

end Regnant.Osb
