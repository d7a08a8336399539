import Mathlib.Data.List.Induction
import Mathlib.Data.List.Nodup
import Regnant.Lib.Collect

structure Dictionary (κ ν : Type) where
  entries : List (κ × ν)
  nodup : (entries.map Prod.fst).Nodup

namespace Dictionary
variable {κ ν : Type}

@[ext] theorem ext {d d' : Dictionary κ ν} (same : d.entries = d'.entries) : d = d' := by
  cases d
  cases d'
  cases same
  rfl

def empty : Dictionary κ ν :=
  ⟨[], .nil⟩

def keys (d : Dictionary κ ν) : List κ :=
  d.entries.map Prod.fst

def values (d : Dictionary κ ν) : List ν :=
  d.entries.map Prod.snd

def size (d : Dictionary κ ν) : Nat :=
  d.entries.length

structure Iterator where
  used : Nat
  position : Nat

def iter (d : Dictionary κ ν) : Iterator :=
  ⟨d.size, 0⟩

def next (d : Dictionary κ ν) (it : Iterator) : Option (Option (ν × Iterator)) :=
  if it.used = d.size then
    some (d.values[it.position]?.map fun value => (value, ⟨it.used, it.position + 1⟩))
  else none

@[simp] theorem length_values (d : Dictionary κ ν) : d.values.length = d.size :=
  List.length_map _

section
variable {d : Dictionary κ ν} {it : Iterator}

theorem next_inside (same : it.used = d.size) (inside : it.position < d.values.length) :
    d.next it = some (some (d.values[it.position], ⟨it.used, it.position + 1⟩)) := by
  rw [next, if_pos same, List.getElem?_eq_getElem inside, Option.map_some]

theorem next_end (same : it.used = d.size) (outside : d.values.length ≤ it.position) :
    d.next it = some none := by
  rw [next, if_pos same, List.getElem?_eq_none outside, Option.map_none]

theorem next_changed (changed : it.used ≠ d.size) : d.next it = none :=
  if_neg changed

end

def Grows (d d' : Dictionary κ ν) : Prop :=
  d.entries <+: d'.entries

theorem Grows.refl (d : Dictionary κ ν) : d.Grows d :=
  List.prefix_rfl

theorem Grows.trans {d d' d'' : Dictionary κ ν} (grows : d.Grows d') (more : d'.Grows d'') :
    d.Grows d'' :=
  List.IsPrefix.trans grows more

theorem Grows.eq_of_size {d d' : Dictionary κ ν} (grows : d.Grows d') (same : d.size = d'.size) :
    d = d' :=
  ext (grows.eq_of_length same)

variable [DecidableEq κ]

def set (d : Dictionary κ ν) (key : κ) (value : ν) : Dictionary κ ν :=
  ⟨Collect.assign d.entries key value, Collect.nodup_assign d.nodup⟩

theorem set_new {d : Dictionary κ ν} {key : κ} (new : key ∉ d.keys) (value : ν) :
    (d.set key value).entries = d.entries ++ [(key, value)] :=
  if_neg new

theorem grows_set {d : Dictionary κ ν} {key : κ} (new : key ∉ d.keys) (value : ν) :
    d.Grows (d.set key value) := by
  rw [Grows, set_new new]
  exact List.prefix_append _ _

theorem mem_keys_set {d : Dictionary κ ν} {key key' : κ} {value : ν} :
    key' ∈ (d.set key value).keys ↔ key' = key ∨ key' ∈ d.keys := by
  have keyed (entries : List (κ × ν)) : key' ∈ entries.map Prod.fst ↔ ∃ v, (key', v) ∈ entries := by
    simp
  simp only [keys, set, keyed, Collect.mem_assign]
  by_cases same : key' = key <;> simp [same]

def assigned (entries : List (κ × ν)) : Dictionary κ ν :=
  entries.foldl (fun d e => d.set e.1 e.2) .empty

theorem assigned_append (entries : List (κ × ν)) (e : κ × ν) :
    assigned (entries ++ [e]) = (assigned entries).set e.1 e.2 := by
  rw [assigned, List.foldl_append]
  rfl

structure Latest (assigned entries : List (κ × ν)) : Prop where
  keys : entries.map Prod.fst = (assigned.map Prod.fst).eraseDups
  values : ∀ key value, (key, value) ∈ entries ↔
    (assigned.filter (·.1 = key)).getLast? = some (key, value)

theorem keys_set (d : Dictionary κ ν) (key : κ) (value : ν) :
    (d.set key value).keys = if key ∈ d.keys then d.keys else d.keys ++ [key] := by
  by_cases known : key ∈ d.keys
  · have assigned : (d.set key value).entries =
        d.entries.map fun e => if e.1 = key then (key, value) else e := if_pos known
    rw [if_pos known, keys, assigned, List.map_map]
    refine List.map_congr_left fun e _ => ?_
    by_cases same : e.1 = key <;> simp [same]
  · rw [if_neg known, keys, set_new known, List.map_append]
    rfl

theorem latest_assigned (entries : List (κ × ν)) : Latest entries (assigned entries).entries := by
  induction entries using List.reverseRecOn with
  | nil => exact ⟨by simp [assigned, empty], by simp [assigned, empty]⟩
  | append_singleton entries e ih =>
      rw [assigned_append]
      constructor
      · have same : (assigned entries).keys = (entries.map Prod.fst).eraseDups := ih.keys
        change ((assigned entries).set e.1 e.2).keys = _
        rw [keys_set, same, List.map_append, List.eraseDups_append]
        by_cases known : e.1 ∈ entries.map Prod.fst
        · simp [known, List.removeAll]
        · simp [known, List.removeAll, List.eraseDups_cons]
      · intro key value
        rw [set, Collect.mem_assign, List.filter_append, ih.values]
        by_cases here : key = e.1
        · obtain ⟨key', value'⟩ := e
          simp_all [eq_comm]
        · simp [here, Ne.symm here]

end Dictionary
