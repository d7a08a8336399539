import Mathlib.Data.List.Basic

namespace Collect
variable {κ ν α ε : Type} [DecidableEq κ]

def assign (entries : List (κ × α)) (key : κ) (a : α) : List (κ × α) :=
  if key ∈ entries.map (·.1) then entries.map fun e => if e.1 = key then (key, a) else e
  else entries ++ [(key, a)]

def store (load : ν → Except ε (Option (κ × α))) (entries : List (κ × α)) (name : ν) :
    Except ε (List (κ × α)) := do
  match ← load name with
  | some (key, a) => return assign entries key a
  | none => return entries

def collect (load : ν → Except ε (Option (κ × α))) (pages : List (List ν)) :
    Except ε (List (κ × α)) :=
  pages.foldlM (fun entries page => page.foldlM (store load) entries) []

variable {load : ν → Except ε (Option (κ × α))} {entries payload : List (κ × α)} {key : κ} {a : α}
  {names seen : List ν} {pages : List (List ν)}

theorem mem_of_lookup {κ : Type} [BEq κ] [LawfulBEq κ] {entries : List (κ × α)} {key : κ}
    (found : entries.lookup key = some a) : (key, a) ∈ entries := by
  obtain ⟨before, after, rfl, -⟩ := List.lookup_eq_some_iff.mp found
  simp

theorem mem_assign {key' : κ} {a' : α} :
    (key, a) ∈ assign entries key' a' ↔
      key = key' ∧ a = a' ∨ key ≠ key' ∧ (key, a) ∈ entries := by
  rw [assign]
  split
  next member =>
    rw [List.mem_map]
    constructor
    · rintro ⟨e, mem, same⟩
      split at same
      next => exact .inl (by simpa [eq_comm] using same)
      next other =>
        subst same
        exact .inr ⟨other, mem⟩
    · rintro (⟨rfl, rfl⟩ | ⟨other, mem⟩)
      · obtain ⟨e, mem, same⟩ := List.mem_map.mp member
        exact ⟨e, mem, by simp [same]⟩
      · exact ⟨_, mem, by simp [other]⟩
  next absent =>
    rw [List.mem_append, List.mem_singleton, Prod.mk.injEq]
    constructor
    · rintro (mem | same)
      · refine .inr ⟨?_, mem⟩
        rintro rfl
        exact absent (List.mem_map_of_mem mem)
      · exact .inl same
    · rintro (same | ⟨-, mem⟩)
      · exact .inr same
      · exact .inl mem

theorem nodup_assign (nodup : (entries.map (·.1)).Nodup) :
    ((assign entries key a).map (·.1)).Nodup := by
  rw [assign]
  split
  next member =>
    have same : (entries.map fun e => if e.1 = key then (key, a) else e).map (·.1) =
        entries.map (·.1) := by
      rw [List.map_map]
      apply List.map_congr_left
      intro e _
      by_cases here : e.1 = key <;> simp [here]
    rwa [same]
  next absent =>
    rw [List.map_append, List.nodup_append]
    exact ⟨nodup, by simp, by simpa using fun e mem => ne_of_mem_of_not_mem mem absent⟩

theorem collect_flatten : collect load pages = pages.flatten.foldlM (store load) [] := by
  rw [collect]
  generalize ([] : List (κ × α)) = entries
  induction pages generalizing entries with
  | nil => rfl
  | cons page pages ih =>
      rw [List.flatten_cons, List.foldlM_append, List.foldlM_cons]
      exact congrArg _ (funext ih)

theorem store_ok (entries : List (κ × α)) {name : ν} :
    (∃ entries', store load entries name = .ok entries') ↔ ∃ entry, load name = .ok entry := by
  rw [store]
  cases load name with
  | error e => simp [bind, Except.bind]
  | ok entry => cases entry <;> simp [bind, Except.bind, pure, Except.pure]

theorem collect_ok_iff :
    (∃ payload, collect load pages = .ok payload) ↔
      ∀ page ∈ pages, ∀ name ∈ page, ∃ entry, load name = .ok entry := by
  have flat : (∀ page ∈ pages, ∀ name ∈ page, ∃ entry, load name = .ok entry) ↔
      ∀ name ∈ pages.flatten, ∃ entry, load name = .ok entry := by
    constructor
    · intro all name member
      obtain ⟨page, listed, here⟩ := List.mem_flatten.mp member
      exact all page listed name here
    · intro all page listed name here
      exact all name (List.mem_flatten.mpr ⟨page, listed, here⟩)
  rw [flat, collect_flatten]
  generalize pages.flatten = names
  generalize ([] : List (κ × α)) = entries
  induction names generalizing entries with
  | nil => simp [pure, Except.pure]
  | cons name names ih =>
      rw [List.foldlM_cons, List.forall_mem_cons, ← store_ok entries]
      cases stored : store load entries name with
      | error e => simp [bind, Except.bind]
      | ok entries' => simpa [bind, Except.bind] using ih entries'

structure Holds (load : ν → Except ε (Option (κ × α))) (entries : List (κ × α)) (seen : List ν) :
    Prop where
  nodup : (entries.map (·.1)).Nodup
  mem : ∀ key a, (key, a) ∈ entries ↔ ∃ name ∈ seen, load name = .ok (some (key, a))

theorem Holds.store (holds : Holds load entries seen)
    (functional : ∀ name name' key a a', load name = .ok (some (key, a)) →
      load name' = .ok (some (key, a')) → a = a')
    {name : ν} {entries' : List (κ × α)} (stored : Collect.store load entries name = .ok entries') :
    Holds load entries' (seen ++ [name]) := by
  rw [Collect.store] at stored
  cases loaded : load name with
  | error e => simp [loaded, bind, Except.bind] at stored
  | ok entry =>
      cases entry with
      | none =>
          obtain rfl : entries = entries' := by
            simpa [loaded, bind, Except.bind, pure, Except.pure] using stored
          refine ⟨holds.nodup, fun key a => ?_⟩
          simp [holds.mem, loaded]
      | some entry =>
          obtain ⟨key', a'⟩ := entry
          obtain rfl : assign entries key' a' = entries' := by
            simpa [loaded, bind, Except.bind, pure, Except.pure] using stored
          refine ⟨nodup_assign holds.nodup, fun key a => ?_⟩
          rw [mem_assign, holds.mem]
          constructor
          · rintro (⟨rfl, rfl⟩ | ⟨-, name', member, load'⟩)
            · exact ⟨name, by simp, loaded⟩
            · exact ⟨name', List.mem_append_left _ member, load'⟩
          · rintro ⟨name', member, load'⟩
            by_cases same : key = key'
            · subst same
              exact .inl ⟨rfl, functional name' name key a a' load' loaded⟩
            · refine .inr ⟨same, ?_⟩
              rcases List.mem_append.mp member with earlier | this
              · exact ⟨name', earlier, load'⟩
              · obtain rfl := List.mem_singleton.mp this
                rw [loaded] at load'
                cases load'
                exact absurd rfl same

theorem Holds.collect (functional : ∀ name name' key a a', load name = .ok (some (key, a)) →
      load name' = .ok (some (key, a')) → a = a')
    (collected : Collect.collect load pages = .ok payload) : Holds load payload pages.flatten := by
  rw [collect_flatten] at collected
  have start : Holds load ([] : List (κ × α)) [] := ⟨by simp, by simp⟩
  rw [← List.nil_append pages.flatten]
  generalize ([] : List (κ × α)) = entries at collected start
  generalize ([] : List ν) = seen at start ⊢
  generalize pages.flatten = names at collected
  induction names generalizing entries seen with
  | nil =>
      cases collected
      rwa [List.append_nil]
  | cons name names ih =>
      rw [List.foldlM_cons] at collected
      cases stored : Collect.store load entries name with
      | error e => simp [stored, bind, Except.bind] at collected
      | ok entries' =>
          rw [stored] at collected
          have rest := ih entries' _ (start.store functional stored) collected
          rwa [List.append_assoc, List.singleton_append] at rest

theorem mem_collect (functional : ∀ name name' key a a', load name = .ok (some (key, a)) →
      load name' = .ok (some (key, a')) → a = a')
    (collected : collect load pages = .ok payload) (entry : κ × α) :
    entry ∈ payload ↔ ∃ page ∈ pages, ∃ name ∈ page, load name = .ok (some entry) := by
  obtain ⟨key, a⟩ := entry
  rw [(Holds.collect functional collected).mem]
  simp only [List.mem_flatten]
  constructor
  · rintro ⟨name, ⟨page, listed, here⟩, loaded⟩
    exact ⟨page, listed, name, here, loaded⟩
  · rintro ⟨page, listed, name, here, loaded⟩
    exact ⟨name, ⟨page, listed, here⟩, loaded⟩

theorem loads_of_serves (functional : ∀ name name' key a a', load name = .ok (some (key, a)) →
      load name' = .ok (some (key, a')) → a = a')
    (collected : collect load pages = .ok payload) {Serves : κ × α → Prop}
    (serves : ∀ entry ∈ payload, Serves entry) :
    ∀ page ∈ pages, ∀ name ∈ page, ∃ loaded, load name = .ok loaded ∧
      ∀ entry ∈ loaded, Serves entry := by
  intro page listed name here
  obtain ⟨loaded, load⟩ := collect_ok_iff.mp ⟨payload, collected⟩ page listed name here
  refine ⟨loaded, load, fun entry some => serves entry ?_⟩
  obtain rfl : loaded = Option.some entry := some
  exact (mem_collect functional collected entry).mpr ⟨page, listed, name, here, load⟩

theorem collects_of_serves (functional : ∀ name name' key a a', load name = .ok (some (key, a)) →
      load name' = .ok (some (key, a')) → a = a')
    {Shaped Serves : κ × α → Prop} (shaped : ∀ entry, Serves entry → Shaped entry)
    (all : ∀ page ∈ pages, ∀ name ∈ page, ∃ loaded, load name = .ok loaded ∧
      ∀ entry ∈ loaded, Serves entry) :
    ∃ payload, collect load pages = .ok payload ∧ (payload.map (·.1)).Nodup ∧
      (∀ entry, entry ∈ payload ↔
        (∃ page ∈ pages, ∃ name ∈ page, load name = .ok (some entry)) ∧ Shaped entry) ∧
      ∀ entry ∈ payload, Serves entry := by
  obtain ⟨payload, collected⟩ : ∃ payload, collect load pages = .ok payload := by
    refine collect_ok_iff.mpr fun page listed name here => ?_
    obtain ⟨loaded, load, -⟩ := all page listed name here
    exact ⟨loaded, load⟩
  have serves : ∀ entry ∈ payload, Serves entry := by
    intro entry mem
    obtain ⟨page, listed, name, here, loads⟩ := (mem_collect functional collected entry).mp mem
    obtain ⟨loaded, load, serves⟩ := all page listed name here
    rw [loads, Except.ok.injEq] at load
    exact serves entry load.symm
  refine ⟨payload, collected, (Holds.collect functional collected).nodup, fun entry => ?_, serves⟩
  rw [← mem_collect functional collected]
  exact ⟨fun mem => ⟨mem, shaped entry (serves entry mem)⟩, fun mem => mem.1⟩

end Collect
