import Mathlib.Data.List.Forall2

namespace List

variable {α β γ : Type} {f : α → Option β} {l : List α} {l' : List β}

theorem mapM_eq_some_iff :
    l.mapM f = some l' ↔ Forall₂ (fun a b => f a = some b) l l' := by
  induction l generalizing l' with
  | nil => simp [eq_comm]
  | cons a l ih =>
      simp only [mapM_cons, Option.bind_eq_bind, Option.bind_eq_some_iff, Option.pure_def,
        Option.some.injEq]
      constructor
      · rintro ⟨b, here, bs, rest, rfl⟩
        exact .cons here (ih.mp rest)
      · intro all
        cases all with
        | cons here rest => exact ⟨_, here, _, ih.mpr rest, rfl⟩

theorem mapM_some_iff_forall : (∃ l', l.mapM f = some l') ↔ ∀ a ∈ l, (f a).isSome = true := by
  induction l with
  | nil => simp
  | cons a l ih =>
      rw [forall_mem_cons, ← ih, mapM_cons]
      cases f a with
      | none => simp
      | some b => cases mapM f l <;> simp

theorem mapM_option_congr {g : α → Option β} (same : ∀ a ∈ l, f a = g a) : l.mapM f = l.mapM g := by
  induction l with
  | nil => rfl
  | cons a l ih =>
      obtain ⟨here, rest⟩ := forall_mem_cons.mp same
      rw [mapM_cons, mapM_cons, here, ih rest]

theorem mem_of_mapM {b : β} (all : l.mapM f = some l') (member : b ∈ l') :
    ∃ a ∈ l, f a = some b := by
  rw [mapM_eq_some_iff] at all
  induction all with
  | nil => simp at member
  | cons here rest ih =>
      rcases mem_cons.mp member with rfl | member
      · exact ⟨_, mem_cons_self, here⟩
      · obtain ⟨a, mem, same⟩ := ih member
        exact ⟨a, mem_cons_of_mem _ mem, same⟩

theorem mem_mapM_iff (all : l.mapM f = some l') {b : β} : b ∈ l' ↔ ∃ a ∈ l, f a = some b := by
  constructor
  · exact mem_of_mapM all
  · rintro ⟨a, member, here⟩
    rw [mapM_eq_some_iff] at all
    induction all with
    | nil => simp at member
    | cons first rest ih =>
        rcases mem_cons.mp member with rfl | member
        · rw [Option.some.inj (here.symm.trans first)]
          exact mem_cons_self
        · exact mem_cons_of_mem _ (ih member)

theorem map_mapM {g : α → Option γ} {h : β → γ} (all : l.mapM f = some l')
    (keeps : ∀ a b, f a = some b → g a = some (h b)) : l'.map h = l.filterMap g := by
  rw [mapM_eq_some_iff] at all
  induction all with
  | nil => rfl
  | cons here rest ih => rw [map_cons, filterMap_cons_some (keeps _ _ here), ih]

theorem eq_of_nodup_filterMap {a b : α} {c : β} (distinct : (l.filterMap f).Nodup) (ma : a ∈ l)
    (mb : b ∈ l) (fa : f a = some c) (fb : f b = some c) : a = b := by
  induction l with
  | nil => cases ma
  | cons x l ih =>
      have never (y : α) (my : y ∈ l) (fx : f x = some c) (fy : f y = some c) : False := by
        rw [filterMap_cons_some fx, nodup_cons] at distinct
        exact distinct.1 (mem_filterMap.mpr ⟨y, my, fy⟩)
      rcases mem_cons.mp ma with rfl | la <;> rcases mem_cons.mp mb with rfl | lb
      · rfl
      · exact (never b lb fa fb).elim
      · exact (never a la fb fa).elim
      · exact ih (distinct.sublist ((sublist_cons_self x l).filterMap f)) la lb

end List
