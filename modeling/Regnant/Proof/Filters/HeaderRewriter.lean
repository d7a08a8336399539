import Regnant.Filters.HeaderRewriter
import Regnant.Lib.Overwrites

/-!
# Rewriting response headers

The names in `add` are told apart by case, those of headers are not. So the filter does what its
configuration says, in whatever order it iterates `add`, exactly when names in `add` that differ
only in case have the same value.
-/

namespace Regnant.Filters.HeaderRewriter

variable {Headers : Type} {host : ProxyHost Headers} {config : Config} {headers headers' : Headers}
  {order order' : Entries} {name name' : String}

section
variable {Bytes : Type} (fromSlice : Bytes → Option AuthSidecar.Json)

def parse (configuration : Option Bytes) : Option Config :=
  configuration.bind fun bytes => (fromSlice bytes).bind Config.deserialize

theorem foldl_onConfigure (configurations : List (Option Bytes)) :
    configurations.foldl (Config.onConfigure fromSlice) .default =
      ((configurations.filterMap (parse fromSlice)).getLast?).getD .default := by
  induction configurations using List.reverseRecOn with
  | nil => rfl
  | append_singleton configurations configuration ih =>
      rw [List.foldl_append, List.foldl_cons, List.foldl_nil, ih, List.filterMap_append]
      cases configuration with
      | none => simp [Config.onConfigure, parse]
      | some bytes =>
          cases parsed : (fromSlice bytes).bind Config.deserialize with
          | none => simp [Config.onConfigure, parse, parsed]
          | some config => simp [Config.onConfigure, parse, parsed]

end

def Config.Adds (config : Config) (name : String) : Prop :=
  ∃ name' ∈ config.add, headerKey name' = headerKey name

def Config.Removes (config : Config) (name : String) : Prop :=
  ∃ name' ∈ config.remove, headerKey name' = headerKey name

/-- Names in `add` that differ only in case have the same value. -/
def Config.Consistent (config : Config) : Prop :=
  ∀ name value name' value', config.add.lookup name = some value →
    config.add.lookup name' = some value' → headerKey name = headerKey name' → value = value'

def Config.Iterates (config : Config) (order : Entries) : Prop :=
  (order : Multiset (Sigma fun _ : String => String)) = config.add.entries

structure Rewritten (host : ProxyHost Headers) (config : Config) (headers headers' : Headers) :
    Prop where
  added : ∀ name value name', config.add.lookup name = some value →
    headerKey name = headerKey name' → host.values headers' name' = [value]
  removed : ∀ name, config.Removes name → ¬config.Adds name → host.values headers' name = []
  others : ∀ name, ¬config.Removes name → ¬config.Adds name →
    host.values headers' name = host.values headers name

def store (documented : host.Documented) :
    Overwrites Headers String (List Char) (Option String) (List String) where
  key := headerKey
  stored := Option.toList
  read := host.values
  write := host.setMapValue
  read_write := documented.set
  read_write_other := documented.other

def removals (config : Config) : List (String × Option String) :=
  config.remove.map fun name => (name, none)

def additions (order : Entries) : List (String × Option String) :=
  order.map fun entry => (entry.1, some entry.2)

theorem onHttpResponseHeaders_eq (documented : host.Documented) :
    onHttpResponseHeaders host config order headers =
      (store documented).writeAll (additions order)
        ((store documented).writeAll (removals config) headers) := by
  simp only [onHttpResponseHeaders, Overwrites.writeAll, additions, removals, List.foldl_map]
  rfl

theorem mem_iff (iterates : config.Iterates order) {value : String} :
    ⟨name, value⟩ ∈ order ↔ config.add.lookup name = some value := by
  rw [Finmap.lookup_eq_some_iff, ← iterates, Multiset.mem_coe]

theorem additions_present_iff (iterates : config.Iterates order) :
    (∃ w ∈ additions order, headerKey w.1 = headerKey name) ↔ config.Adds name := by
  simp only [additions, List.mem_map, Config.Adds]
  constructor
  · rintro ⟨w, ⟨⟨name', value⟩, member, rfl⟩, same⟩
    exact ⟨name', Finmap.mem_of_lookup_eq_some ((mem_iff iterates).mp member), same⟩
  · rintro ⟨name', member, same⟩
    obtain ⟨value, found⟩ := Finmap.mem_iff.mp member
    exact ⟨_, ⟨⟨name', value⟩, (mem_iff iterates).mpr found, rfl⟩, same⟩

theorem consistent_iff_agree (documented : host.Documented) (iterates : config.Iterates order) :
    config.Consistent ↔ (store documented).Agree (additions order) := by
  constructor
  · intro consistent w member w' member' same
    obtain ⟨⟨name, value⟩, here, rfl⟩ := List.mem_map.mp member
    obtain ⟨⟨name', value'⟩, here', rfl⟩ := List.mem_map.mp member'
    have equal := consistent name value name' value' ((mem_iff iterates).mp here)
      ((mem_iff iterates).mp here') same
    exact congrArg (fun value => [value]) equal
  · intro agree name value name' value' found found' same
    have here := List.mem_map_of_mem (f := fun entry => (entry.1, some entry.2))
      ((mem_iff iterates).mpr found)
    have here' := List.mem_map_of_mem (f := fun entry => (entry.1, some entry.2))
      ((mem_iff iterates).mpr found')
    exact List.singleton_injective (agree _ here _ here' same)

theorem values_removed (documented : host.Documented) (removes : config.Removes name) :
    host.values ((store documented).writeAll (removals config) headers) name = [] := by
  obtain ⟨name', member, same⟩ := removes
  refine Overwrites.read_writeAll_of_agree (S := store documented) ?_
    ⟨(name', none), List.mem_map_of_mem member, same⟩
  intro w written _
  obtain ⟨name'', -, rfl⟩ := List.mem_map.mp written
  rfl

theorem values_not_removed (documented : host.Documented) (kept : ¬config.Removes name) :
    host.values ((store documented).writeAll (removals config) headers) name =
      host.values headers name := by
  refine Overwrites.read_writeAll_of_absent (S := store documented) fun w written same => ?_
  obtain ⟨name', member, rfl⟩ := List.mem_map.mp written
  exact kept ⟨name', member, same⟩

theorem values_not_added (documented : host.Documented) (iterates : config.Iterates order)
    (absent : ¬config.Adds name) :
    host.values (onHttpResponseHeaders host config order headers) name =
      host.values ((store documented).writeAll (removals config) headers) name := by
  rw [onHttpResponseHeaders_eq documented]
  exact Overwrites.read_writeAll_of_absent (S := store documented) fun w written same =>
    absent ((additions_present_iff iterates).mp ⟨w, written, same⟩)

theorem rewritten_of_consistent (documented : host.Documented) (iterates : config.Iterates order)
    (consistent : config.Consistent) :
    Rewritten host config headers (onHttpResponseHeaders host config order headers) where
  added := by
    intro name value name' found same
    have here : (name, some value) ∈ additions order :=
      List.mem_map.mpr ⟨_, (mem_iff iterates).mpr found, rfl⟩
    rw [onHttpResponseHeaders_eq documented]
    refine Overwrites.read_writeAll_of_agree (S := store documented) (fun w written same' => ?_)
      ⟨_, here, same⟩
    exact (consistent_iff_agree documented iterates).mp consistent w written _ here
      (same'.trans same.symm)
  removed := by
    intro name removes absent
    rw [values_not_added documented iterates absent, values_removed documented removes]
  others := by
    intro name kept absent
    rw [values_not_added documented iterates absent, values_not_removed documented kept]

theorem consistent_of_rewritten (rewritten : Rewritten host config headers headers') :
    config.Consistent := by
  intro name value name' value' found found' same
  have here := rewritten.added name value name' found same
  have here' := rewritten.added name' value' name' found' rfl
  exact List.singleton_injective (here.symm.trans here')

theorem exists_order {writes : List (String × Option String)}
    (perm : writes.Perm (additions order)) :
    ∃ order', order'.Perm order ∧ additions order' = writes := by
  let entry (w : String × Option String) : Sigma fun _ : String => String := ⟨w.1, w.2.getD ""⟩
  refine ⟨writes.map entry, ?_, ?_⟩
  · have back := perm.map entry
    have whole : (entry ∘ fun e : Sigma fun _ : String => String => (e.1, some e.2)) = id := rfl
    rwa [additions, List.map_map, whole, List.map_id] at back
  · rw [additions, List.map_map]
    refine (List.map_congr_left fun w member => ?_).trans (List.map_id writes)
    obtain ⟨_, _, rfl⟩ := List.mem_map.mp (perm.mem_iff.mp member)
    rfl

theorem order_irrelevant_iff (documented : host.Documented) (iterates : config.Iterates order) :
    (∀ order', config.Iterates order' → ∀ name,
      host.values (onHttpResponseHeaders host config order' headers) name =
        host.values (onHttpResponseHeaders host config order headers) name) ↔
      config.Consistent := by
  simp only [consistent_iff_agree documented iterates, onHttpResponseHeaders_eq documented]
  constructor
  · intro irrelevant
    let removed := (store documented).writeAll (removals config) headers
    refine (Overwrites.agree_iff_perm removed).mpr fun writes perm name => ?_
    obtain ⟨order', perm', rfl⟩ := exists_order perm
    exact irrelevant order' ((Multiset.coe_eq_coe.mpr perm').trans iterates) name
  · intro agree order' iterates' name
    have perm : (additions order').Perm (additions order) :=
      (Multiset.coe_eq_coe.mp (iterates'.trans iterates.symm)).map _
    exact (Overwrites.agree_iff_perm _).mp agree _ perm name

/-- The filter does what its configuration says, whatever the order of iteration, exactly when names
in `add` that differ only in case have the same value. -/
theorem rewritten_iff (documented : host.Documented) (config : Config) (headers : Headers)
    (order : Entries) (iterates : config.Iterates order) :
    (Rewritten host config headers (onHttpResponseHeaders host config order headers) ∧
      ∀ order', config.Iterates order' → ∀ name,
        host.values (onHttpResponseHeaders host config order' headers) name =
          host.values (onHttpResponseHeaders host config order headers) name) ↔
      config.Consistent := by
  constructor
  · intro ⟨rewritten, _⟩
    exact consistent_of_rewritten rewritten
  · intro consistent
    exact ⟨rewritten_of_consistent documented iterates consistent,
      (order_irrelevant_iff documented iterates).mpr consistent⟩

def exampleConfig : Config :=
  ⟨(∅ : Finmap fun _ : String => String).insert "x-a" "1", ["x-b", "X-A"]⟩

theorem exampleConfig_rewritten :
    Rewritten listHost exampleConfig [("X-B", "0"), ("x-c", "0")]
        (onHttpResponseHeaders listHost exampleConfig [⟨"x-a", "1"⟩] [("X-B", "0"), ("x-c", "0")]) ∧
      ∀ order', exampleConfig.Iterates order' → ∀ name,
        listHost.values (onHttpResponseHeaders listHost exampleConfig order'
          [("X-B", "0"), ("x-c", "0")]) name =
        listHost.values (onHttpResponseHeaders listHost exampleConfig [⟨"x-a", "1"⟩]
          [("X-B", "0"), ("x-c", "0")]) name := by
  refine (rewritten_iff listHost_documented exampleConfig _ [⟨"x-a", "1"⟩] rfl).mpr ?_
  have only (name value : String) (found : exampleConfig.add.lookup name = some value) :
      value = "1" := by
    by_cases this : name = "x-a"
    · rw [this] at found
      exact Option.some.inj found.symm
    · rw [exampleConfig, Finmap.lookup_insert_of_ne _ this] at found
      cases found
  intro name value name' value' found found' _
  rw [only name value found, only name' value' found']

def conflictingConfig : Config :=
  ⟨((∅ : Finmap fun _ : String => String).insert "X-A" "1").insert "x-a" "2", []⟩

theorem not_always_rewritten :
    ¬∀ (config : Config) (headers : List (String × String)) (order : Entries),
      config.Iterates order →
      Rewritten listHost config headers (onHttpResponseHeaders listHost config order headers) ∧
        ∀ order', config.Iterates order' → ∀ name,
          listHost.values (onHttpResponseHeaders listHost config order' headers) name =
            listHost.values (onHttpResponseHeaders listHost config order headers) name := by
  intro always
  have rewritten := (always conflictingConfig [] [⟨"x-a", "2"⟩, ⟨"X-A", "1"⟩] rfl).1
  have equal := consistent_of_rewritten rewritten "X-A" "1" "x-a" "2" rfl rfl (by decide)
  exact absurd equal (by decide)

end Regnant.Filters.HeaderRewriter
