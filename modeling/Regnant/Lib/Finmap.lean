import Mathlib.Data.Finmap

namespace Finmap

variable {α β γ : Type*} {f : β → Option γ} {m : Finmap fun _ : α => β}

theorem keys_filterMap_sublist (f : β → Option γ) (entries : List (Σ _ : α, β)) :
    (entries.filterMap fun e => (f e.2).map (Sigma.mk (β := fun _ => γ) e.1)).keys.Sublist
      entries.keys := by
  induction entries with
  | nil => exact List.Sublist.slnil
  | cons e entries ih =>
      cases value : f e.2 with
      | none =>
          rw [List.filterMap_cons_none (by rw [value]; rfl)]
          exact ih.cons e.1
      | some c =>
          rw [List.filterMap_cons_some (by rw [value]; rfl)]
          exact ih.cons_cons e.1

def filterMapValues (f : β → Option γ) (m : Finmap fun _ : α => β) : Finmap fun _ : α => γ where
  entries := m.entries.filterMap fun e => (f e.2).map (Sigma.mk e.1)
  nodupKeys := by
    obtain ⟨entries, nodup⟩ := m
    induction entries using Quotient.inductionOn with
    | h entries => exact (keys_filterMap_sublist f entries).nodup nodup

variable [DecidableEq α]

theorem lookup_union_or (m m' : Finmap fun _ : α => β) (a : α) :
    (m ∪ m').lookup a = (m.lookup a).or (m'.lookup a) := by
  by_cases member : a ∈ m
  · obtain ⟨b, value⟩ := mem_iff.mp member
    rw [lookup_union_left member, value, Option.some_or]
  · rw [lookup_union_right member, lookup_eq_none.mpr member, Option.none_or]

theorem lookup_filterMapValues (a : α) :
    (filterMapValues f m).lookup a = (m.lookup a).bind f := by
  apply Option.ext
  intro c
  rw [lookup_eq_some_iff, Option.bind_eq_some_iff]
  simp only [filterMapValues, Multiset.mem_filterMap, Option.map_eq_some_iff, lookup_eq_some_iff]
  constructor
  · rintro ⟨⟨a', b⟩, member, c', value, same⟩
    cases same
    exact ⟨b, member, value⟩
  · rintro ⟨b, member, value⟩
    exact ⟨⟨a, b⟩, member, c, value, rfl⟩

def traverse (f : β → Option γ) (m : Finmap fun _ : α => β) : Option (Finmap fun _ : α => γ) :=
  if ∀ e ∈ m.entries, (f e.2).isSome then some (filterMapValues f m) else none

theorem traverse_eq_some_iff {m' : Finmap fun _ : α => γ} :
    traverse f m = some m' ↔ ∀ a, (m.lookup a).map f = (m'.lookup a).map some := by
  have defined : (∀ e ∈ m.entries, (f e.2).isSome) ↔
      ∀ a b, m.lookup a = some b → (f b).isSome := by
    simp only [lookup_eq_some_iff]
    exact ⟨fun all a b member => all ⟨a, b⟩ member, fun all e member => all e.1 e.2 member⟩
  constructor
  · intro whole a
    unfold traverse at whole
    split at whole
    next all =>
      have all := defined.mp all
      obtain rfl := Option.some.inj whole
      rw [lookup_filterMapValues]
      cases value : m.lookup a with
      | none => rfl
      | some b =>
          obtain ⟨c, here⟩ := Option.isSome_iff_exists.mp (all a b value)
          simp [here]
    next => cases whole
  · intro agree
    rw [traverse, if_pos, Option.some.injEq]
    · apply ext_lookup
      intro a
      rw [lookup_filterMapValues]
      have here := agree a
      cases value : m.lookup a <;> cases value' : m'.lookup a <;> simp_all
    · refine defined.mpr fun a b value => ?_
      have here := agree a
      cases value' : m'.lookup a <;> simp_all

end Finmap
