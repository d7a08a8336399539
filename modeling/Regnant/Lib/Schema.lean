import Mathlib.Data.List.Nodup

/-!
# Object schemas and strict records

Two ways to say which objects are welcome. An object schema asks for some members and lets any
others through; a strict record declares fields with defaults and turns away every other member.
-/

namespace Schema

class JsonValue (V : Type*) where
  isString : V → Bool
  members : V → Option (List (String × V))

variable {V A R : Type*}

section
variable [JsonValue V]

inductive MemberSchema where
  | string
  | object
  deriving DecidableEq

def MemberSchema.Valid (schema : MemberSchema) (v : V) : Prop :=
  match schema with
  | .string => JsonValue.isString v = true
  | .object => (JsonValue.members v).isSome = true

structure ObjectSchema where
  required : List String
  properties : List (String × MemberSchema)

structure ObjectSchema.Valid (schema : ObjectSchema) (members : List (String × V)) : Prop where
  required : ∀ name ∈ schema.required, (members.lookup name).isSome = true
  properties : ∀ p ∈ schema.properties, ∀ v, members.lookup p.1 = some v → p.2.Valid v

end

structure Field (A R : Type*) where
  name : String
  type : A
  default : Option R

section
variable (check : A → V → Option R) (members : List (String × V))

def Field.read (f : Field A R) : Option R :=
  match members.lookup f.name with
  | some v => check f.type v
  | none => f.default

def readFields : List (Field A R) → Option (List (String × R))
  | [] => some []
  | f :: fields => do
      let r ← f.read check members
      let attrs ← readFields fields
      some ((f.name, r) :: attrs)

def readRecord (fields : List (Field A R)) : Option (List (String × R)) :=
  if ∀ m ∈ members, m.1 ∈ fields.map (·.name) then readFields check members fields else none

end

variable {check : A → V → Option R} {members : List (String × V)} {fields : List (Field A R)}
  {f : Field A R} {attrs : List (String × R)} {name : String} {v : V} {r : R}

theorem lookup_of_mem {m : String × V} (member : m ∈ members) :
    ∃ v, members.lookup m.1 = some v := by
  cases given : members.lookup m.1 with
  | some v => exact ⟨v, rfl⟩
  | none => simpa using List.lookup_eq_none_iff.mp given m member

theorem mem_of_lookup (given : members.lookup name = some v) : ∃ m ∈ members, m.1 = name := by
  obtain ⟨before, after, rfl, -⟩ := List.lookup_eq_some_iff.mp given
  exact ⟨(name, v), by simp, rfl⟩

theorem readFields_isSome :
    (readFields check members fields).isSome = true ↔
      ∀ f ∈ fields, (f.read check members).isSome = true := by
  induction fields with
  | nil => simp [readFields]
  | cons f fields ih =>
      cases read : f.read check members with
      | none => simp [readFields, read]
      | some r =>
          cases rest : readFields check members fields with
          | none => simpa [readFields, read, rest] using ih
          | some attrs => simpa [readFields, read, rest] using ih

theorem readFields_lookup (distinct : (fields.map (·.name)).Nodup)
    (read : readFields check members fields = some attrs) (declared : f ∈ fields) :
    attrs.lookup f.name = f.read check members := by
  induction fields generalizing attrs with
  | nil => simp at declared
  | cons g fields ih =>
      simp only [readFields, Option.bind_eq_bind, Option.bind_eq_some_iff] at read
      obtain ⟨r, first, rest, others, same⟩ := read
      obtain rfl := Option.some.inj same
      rw [List.map_cons, List.nodup_cons] at distinct
      rcases List.mem_cons.mp declared with rfl | declared
      · rw [List.lookup_cons_self, first]
      · have apart : (f.name == g.name) = false := by
          refine beq_false_of_ne fun this => distinct.1 ?_
          rw [← this]
          exact List.mem_map_of_mem declared
        rw [List.lookup_cons, apart]
        exact ih distinct.2 others declared

theorem readFields_names (read : readFields check members fields = some attrs) :
    attrs.map (·.1) = fields.map (·.name) := by
  induction fields generalizing attrs with
  | nil =>
      obtain rfl := Option.some.inj read
      rfl
  | cons g fields ih =>
      simp only [readFields, Option.bind_eq_bind, Option.bind_eq_some_iff] at read
      obtain ⟨r, first, rest, others, same⟩ := read
      obtain rfl := Option.some.inj same
      rw [List.map_cons, List.map_cons, ih others]

theorem readRecord_eq_some :
    readRecord check members fields = some attrs ↔
      (∀ name v, members.lookup name = some v → ∃ f ∈ fields, f.name = name) ∧
        readFields check members fields = some attrs := by
  have known : (∀ m ∈ members, m.1 ∈ fields.map (·.name)) ↔
      ∀ name v, members.lookup name = some v → ∃ f ∈ fields, f.name = name := by
    constructor
    · intro all name v given
      obtain ⟨m, member, rfl⟩ := mem_of_lookup given
      exact List.mem_map.mp (all m member)
    · intro all m member
      obtain ⟨v, given⟩ := lookup_of_mem member
      exact List.mem_map.mpr (all m.1 v given)
  rw [← known, readRecord]
  split
  · rename_i all
    exact (and_iff_right all).symm
  · rename_i stranger
    exact iff_of_false (by simp) fun all => stranger all.1

theorem readRecord_lookup (distinct : (fields.map (·.name)).Nodup)
    (read : readRecord check members fields = some attrs) (declared : f ∈ fields) :
    attrs.lookup f.name = f.read check members :=
  readFields_lookup distinct (readRecord_eq_some.mp read).2 declared

theorem readRecord_names (read : readRecord check members fields = some attrs)
    (given : attrs.lookup name = some r) : ∃ f ∈ fields, f.name = name := by
  obtain ⟨m, member, rfl⟩ := mem_of_lookup given
  have names := readFields_names (readRecord_eq_some.mp read).2
  exact List.mem_map.mp (names ▸ List.mem_map_of_mem member)

theorem readRecord_isSome (distinct : (fields.map (·.name)).Nodup) :
    (readRecord check members fields).isSome = true ↔
      (∀ name v, members.lookup name = some v →
        ∃ f ∈ fields, f.name = name ∧ (check f.type v).isSome = true) ∧
      ∀ f ∈ fields, f.default = none → (members.lookup f.name).isSome = true := by
  simp only [Option.isSome_iff_exists, readRecord_eq_some, exists_and_left]
  rw [← Option.isSome_iff_exists, readFields_isSome]
  constructor
  · intro ⟨known, readable⟩
    constructor
    · intro name v given
      obtain ⟨f, declared, rfl⟩ := known name v given
      have reads := readable f declared
      rw [Field.read, given] at reads
      exact ⟨f, declared, rfl, Option.isSome_iff_exists.mp reads⟩
    · intro f declared required
      have reads := readable f declared
      rw [Field.read] at reads
      cases given : members.lookup f.name with
      | some v => exact ⟨v, rfl⟩
      | none => simp [given, required] at reads
  · intro ⟨welcome, required⟩
    constructor
    · intro name v given
      obtain ⟨f, declared, same, -⟩ := welcome name v given
      exact ⟨f, declared, same⟩
    · intro f declared
      rw [Field.read]
      cases given : members.lookup f.name with
      | some v =>
          obtain ⟨g, declared', same, reads⟩ := welcome f.name v given
          obtain rfl : g = f := List.inj_on_of_nodup_map distinct declared' declared same
          exact Option.isSome_iff_exists.mpr reads
      | none =>
          cases default : f.default with
          | some r => rfl
          | none =>
              obtain ⟨v, given'⟩ := required f declared default
              simp [given] at given'

theorem readRecord_of_valid [JsonValue V] {schema : ObjectSchema}
    (distinct : (fields.map (·.name)).Nodup)
    (asked : ∀ f ∈ fields, f.default = none → f.name ∈ schema.required)
    (valid : schema.Valid members) :
    (readRecord check members fields).isSome = true ↔
      ∀ name v, members.lookup name = some v →
        ∃ f ∈ fields, f.name = name ∧ (check f.type v).isSome = true := by
  rw [readRecord_isSome distinct]
  exact and_iff_left fun f declared missing => valid.required f.name (asked f declared missing)

end Schema
