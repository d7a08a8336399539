import Mathlib.Algebra.Group.Hom.Defs
import Mathlib.Algebra.Order.Monoid.Unbundled.Basic
import Regnant.Lib.Machine

namespace Machine

variable {σ ι M : Type*} [AddCommMonoid M] (step : σ → ι → σ)

def total (f : σ → ι → M) : σ → List ι → M
  | _, [] => 0
  | s, i :: labels => f s i + total f (step s i) labels

@[simp] theorem total_nil (f : σ → ι → M) (s : σ) : total step f s [] = 0 := rfl

@[simp] theorem total_cons (f : σ → ι → M) (s : σ) (i : ι) (labels : List ι) :
    total step f s (i :: labels) = f s i + total step f (step s i) labels := rfl

theorem map_total {N : Type*} [AddCommMonoid N] (g : M →+ N) (f : σ → ι → M) (s : σ)
    (labels : List ι) :
    g (total step f s labels) = total step (fun s i => g (f s i)) s labels := by
  induction labels generalizing s with
  | nil => exact map_zero g
  | cons i labels ih => rw [total_cons, total_cons, map_add, ih]

theorem exec_conserves (stock : σ → M) {inflow : σ → ι → M}
    (balance : ∀ s i, stock (step s i) = stock s + inflow s i) (s : σ) (labels : List ι) :
    stock (exec step s labels) = stock s + total step inflow s labels := by
  induction labels generalizing s with
  | nil => exact (add_zero _).symm
  | cons i labels ih =>
      have rest : stock (exec step (step s i) labels) = _ := ih (step s i)
      rw [total_cons, ← add_assoc, ← balance]
      exact rest

theorem exec_pays [Preorder M] [AddLeftMono M] [AddRightMono M] (potential : σ → M)
    {cost gain : σ → ι → M} {I : σ → Prop} (keeps : ∀ s i, I s → I (step s i))
    (balance : ∀ s i, I s → potential (step s i) + cost s i ≤ potential s + gain s i) {s : σ}
    (start : I s) (labels : List ι) :
    potential (exec step s labels) + total step cost s labels ≤
      potential s + total step gain s labels := by
  induction labels generalizing s with
  | nil => exact le_refl _
  | cons i labels ih =>
      have rest := ih (keeps s i start)
      calc potential (exec step (step s i) labels) + (cost s i + total step cost (step s i) labels)
          = potential (exec step (step s i) labels) + total step cost (step s i) labels +
              cost s i := by rw [add_comm (cost s i), ← add_assoc]
        _ ≤ potential (step s i) + total step gain (step s i) labels + cost s i := by gcongr
        _ = potential (step s i) + cost s i + total step gain (step s i) labels := by
            rw [add_right_comm]
        _ ≤ potential s + gain s i + total step gain (step s i) labels :=
            add_le_add_left (balance s i start) _
        _ = _ := by rw [total_cons, add_assoc]

end Machine
