import Mathlib.Data.List.Perm.Basic

structure Overwrites (σ ν κ α ρ : Type) where
  key : ν → κ
  stored : α → ρ
  read : σ → ν → ρ
  write : σ → ν → α → σ
  read_write : ∀ s name value name', key name = key name' →
    read (write s name value) name' = stored value
  read_write_other : ∀ s name value name', key name ≠ key name' →
    read (write s name value) name' = read s name'

namespace Overwrites
variable {σ ν κ α ρ : Type} (S : Overwrites σ ν κ α ρ)

def writeAll (writes : List (ν × α)) (s : σ) : σ :=
  writes.foldl (fun s w => S.write s w.1 w.2) s

def Agree (writes : List (ν × α)) : Prop :=
  ∀ w ∈ writes, ∀ w' ∈ writes, S.key w.1 = S.key w'.1 → S.stored w.2 = S.stored w'.2

variable {S} {writes writes' : List (ν × α)} {s : σ} {name : ν} {x : ρ}

theorem read_writeAll_append_singleton (w : ν × α) (same : S.key w.1 = S.key name) :
    S.read (S.writeAll (writes ++ [w]) s) name = S.stored w.2 := by
  rw [writeAll, List.foldl_append]
  exact S.read_write _ _ _ _ same

theorem read_writeAll_of_absent (absent : ∀ w ∈ writes, S.key w.1 ≠ S.key name) :
    S.read (S.writeAll writes s) name = S.read s name := by
  induction writes generalizing s with
  | nil => rfl
  | cons w writes ih =>
      rw [List.forall_mem_cons] at absent
      exact (ih absent.2).trans (S.read_write_other _ _ _ _ absent.1)

theorem read_writeAll_of_agree
    (agree : ∀ w ∈ writes, S.key w.1 = S.key name → S.stored w.2 = x)
    (present : ∃ w ∈ writes, S.key w.1 = S.key name) :
    S.read (S.writeAll writes s) name = x := by
  induction writes generalizing s with
  | nil => simp at present
  | cons w writes ih =>
      rw [List.forall_mem_cons] at agree
      by_cases later : ∃ w ∈ writes, S.key w.1 = S.key name
      · exact ih agree.2 later
      · have absent : ∀ w ∈ writes, S.key w.1 ≠ S.key name :=
          fun w member same => later ⟨w, member, same⟩
        have same : S.key w.1 = S.key name := by simpa [later] using present
        calc S.read (S.writeAll writes (S.write s w.1 w.2)) name
            = S.read (S.write s w.1 w.2) name := read_writeAll_of_absent absent
          _ = S.stored w.2 := S.read_write _ _ _ _ same
          _ = x := agree.1 same

variable (s) in
/-- The order of the writes does not matter exactly when those to one key store the same. -/
theorem agree_iff_perm :
    S.Agree writes ↔ ∀ writes', writes'.Perm writes →
      ∀ name, S.read (S.writeAll writes' s) name = S.read (S.writeAll writes s) name := by
  constructor
  · intro agree writes' perm name
    by_cases present : ∃ w ∈ writes, S.key w.1 = S.key name
    · obtain ⟨w, member, same⟩ := present
      have stored : ∀ w' ∈ writes, S.key w'.1 = S.key name → S.stored w'.2 = S.stored w.2 :=
        fun w' member' same' => agree w' member' w member (same'.trans same.symm)
      rw [read_writeAll_of_agree stored ⟨w, member, same⟩,
        read_writeAll_of_agree (fun w' member' => stored w' (perm.mem_iff.mp member'))
          ⟨w, perm.mem_iff.mpr member, same⟩]
    · have absent : ∀ w ∈ writes, S.key w.1 ≠ S.key name :=
        fun w member same => present ⟨w, member, same⟩
      rw [read_writeAll_of_absent absent,
        read_writeAll_of_absent fun w member => absent w (perm.mem_iff.mp member)]
  · intro orders
    -- the write that is made last decides
    have last : ∀ w ∈ writes, ∀ name, S.key w.1 = S.key name →
        S.read (S.writeAll writes s) name = S.stored w.2 := by
      intro w member name same
      obtain ⟨before, after, rfl⟩ := List.append_of_mem member
      have perm : (before ++ after ++ [w]).Perm (before ++ w :: after) := by
        rw [List.append_assoc]
        exact (List.perm_append_comm).append_left before
      rw [← orders _ perm name, read_writeAll_append_singleton w same]
    intro w member w' member' same
    rw [← last w member w.1 rfl, last w' member' w.1 same.symm]

end Overwrites
