import Regnant.Lib.Yaml

namespace Yaml

def hexValue (c : Char) : Option Nat :=
  if 48 ≤ c.toNat ∧ c.toNat ≤ 57 then some (c.toNat - 48)
  else if 97 ≤ c.toNat ∧ c.toNat ≤ 102 then some (c.toNat - 87)
  else if 65 ≤ c.toNat ∧ c.toNat ≤ 70 then some (c.toNat - 55)
  else none

def hexChar (a b c d : Char) : Option Char := do
  let n := (((← hexValue a) * 16 + (← hexValue b)) * 16 + (← hexValue c)) * 16 + (← hexValue d)
  if n.isValidChar then some (Char.ofNat n) else none

def escapes : List (Char × Char) :=
  [('\x22', '\x22'), ('\x5c', '\x5c'), ('/', '/'), ('b', '\x08'), ('f', '\x0c'), ('n', '\n'),
   ('r', '\r'), ('t', '\t')]

def push (c : Char) (read : Line × Line) : Line × Line :=
  (c :: read.1, read.2)

def unquote : Line → Option (Line × Line)
  | [] => none
  | '\x22' :: rest => some ([], rest)
  | '\x5c' :: 'u' :: a :: b :: c :: d :: rest => do
      let char ← hexChar a b c d
      (unquote rest).map (push char)
  | '\x5c' :: e :: rest => do
      let char ← escapes.lookup e
      (unquote rest).map (push char)
  | c :: rest => (unquote rest).map (push c)

def hexDigit (n : Nat) : Char :=
  Char.ofNat (if n < 10 then 48 + n else 87 + n)

def unicodeEscape (n : Nat) : Line :=
  ['\x5c', 'u', hexDigit (n / 4096 % 16), hexDigit (n / 256 % 16), hexDigit (n / 16 % 16),
    hexDigit (n % 16)]

def Stands (text : Line) (c : Char) : Prop :=
  ∀ rest, unquote (text ++ rest) = (unquote rest).map (push c)

theorem stands_self {c : Char} (quote : c ≠ '\x22') (backslash : c ≠ '\x5c') : Stands [c] c := by
  intro rest
  rw [List.singleton_append, unquote]
  · exact quote
  · exact fun _ _ _ _ _ same => absurd same backslash
  · exact fun _ _ same => absurd same backslash

theorem stands_escape {e c : Char} (other : e ≠ 'u') (stands : escapes.lookup e = some c) :
    Stands ['\x5c', e] c := by
  intro rest
  simp [unquote, other, stands]

theorem hexValue_hexDigit {n : Nat} (small : n < 16) : hexValue (hexDigit n) = some n := by
  have all : ∀ n : Fin 16, hexValue (hexDigit n) = some n.val := by decide
  exact all ⟨n, small⟩

theorem stands_unicode {c : Char} (small : c.toNat ≤ 0xffff) :
    Stands (unicodeEscape c.toNat) c := by
  intro rest
  have digits : hexChar (hexDigit (c.toNat / 4096 % 16)) (hexDigit (c.toNat / 256 % 16))
      (hexDigit (c.toNat / 16 % 16)) (hexDigit (c.toNat % 16)) = some c := by
    have whole : (((c.toNat / 4096 % 16) * 16 + c.toNat / 256 % 16) * 16 + c.toNat / 16 % 16) * 16 +
        c.toNat % 16 = c.toNat := by omega
    have valid : c.toNat.isValidChar := c.valid
    simp [hexChar, hexValue_hexDigit (Nat.mod_lt _ (by decide : 16 > 0)), whole, valid]
  simp [unicodeEscape, unquote, digits]

theorem unquote_flatMap {write : Char → Line} {text : Line}
    (stands : ∀ c ∈ text, Stands (write c) c) (rest : Line) :
    unquote (text.flatMap write ++ '\x22' :: rest) = some (text, rest) := by
  induction text with
  | nil => rfl
  | cons c text ih =>
      obtain ⟨here, others⟩ := List.forall_mem_cons.mp stands
      rw [List.flatMap_cons, List.append_assoc, here, ih others]
      rfl

end Yaml
