import Mathlib.Data.Finmap
import Regnant.Lib.CallTree
import Regnant.Lib.Machine

universe u

def CallTree.result {C : Type u} {R : C → Type u} {E α : Type u} :
    CallTree C R E α → Option (Except E α)
  | ret a => some (.ok a)
  | raise e => some (.error e)
  | call _ _ => none

structure Pool (ν Q : Type*) (C : Type u) (R : C → Type u) (E α σ : Type u) where
  shared : σ
  threads : Finmap fun _ : ν => Q × CallTree C R E α
  answers : List (Q × Except E α)

namespace Pool
variable {ν Q : Type*} [DecidableEq ν] {C : Type u} {R : C → Type u} {E α σ : Type u}
  (p : (c : C) → σ → Except E (R c) × σ) (handler : Q → CallTree C R E α)

inductive Turn (ν Q : Type*) where
  | start (name : ν) (asked : Q)
  | call (name : ν)

def Turn.asked : Turn ν Q → Option Q
  | .start _ asked => some asked
  | .call _ => none

def resume (s : Pool ν Q C R E α σ) (name : ν) (asked : Q) (rest : CallTree C R E α) :
    Pool ν Q C R E α σ :=
  match rest.result with
  | some x => { s with threads := s.threads.erase name, answers := s.answers ++ [(asked, x)] }
  | none => { s with threads := s.threads.insert name (asked, rest) }

def step (s : Pool ν Q C R E α σ) : Turn ν Q → Pool ν Q C R E α σ
  | .start name asked => if name ∈ s.threads then s else s.resume name asked (handler asked)
  | .call name =>
      match s.threads.lookup name with
      | none => s
      | some (asked, rest) =>
          { s with shared := (rest.advance p s.shared).2 }.resume name asked
            (rest.advance p s.shared).1

abbrev after (s : σ) (turns : List (Turn ν Q)) : Pool ν Q C R E α σ :=
  Machine.exec (step p handler) ⟨s, ∅, []⟩ turns

end Pool
