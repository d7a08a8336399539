import Mathlib.Data.List.Basic

namespace Regnant.Filters

structure ProxyHost (Headers : Type) where
  getMapValue : Headers → String → Option String
  setMapValue : Headers → String → Option String → Headers
  values : Headers → String → List String

def headerKey (name : String) : List Char :=
  name.toList.map Char.toLower

/-- What is documented of hosts: a value replaces all values of the header, and no value removes
it. -/
structure ProxyHost.Documented {Headers : Type} (host : ProxyHost Headers) : Prop where
  absent : ∀ headers name, host.getMapValue headers name = none ↔ host.values headers name = []
  set : ∀ headers name value name', headerKey name = headerKey name' →
    host.values (host.setMapValue headers name value) name' = value.toList
  other : ∀ headers name value name', headerKey name ≠ headerKey name' →
    host.values (host.setMapValue headers name value) name' = host.values headers name'

def listHost : ProxyHost (List (String × String)) where
  getMapValue headers name :=
    (headers.find? fun header => headerKey header.1 = headerKey name).map (·.2)
  setMapValue headers name value :=
    headers.filter (fun header => headerKey header.1 ≠ headerKey name) ++
      value.toList.map fun value => (name, value)
  values headers name :=
    (headers.filter fun header => headerKey header.1 = headerKey name).map (·.2)

theorem listHost_documented : listHost.Documented where
  absent := by
    intro headers name
    simp [listHost, List.find?_eq_none, List.filter_eq_nil_iff]
  set := by
    intro headers name value name' same
    have removed : (headers.filter fun header => headerKey header.1 ≠ headerKey name).filter
        (fun header => headerKey header.1 = headerKey name') = [] := by
      simp [← same]
    simp only [listHost]
    rw [List.filter_append, removed]
    cases value <;> simp [same]
  other := by
    intro headers name value name' different
    have kept : (headers.filter fun header => headerKey header.1 ≠ headerKey name).filter
        (fun header => headerKey header.1 = headerKey name') =
          headers.filter fun header => headerKey header.1 = headerKey name' := by
      rw [List.filter_filter]
      refine List.filter_congr fun header _ => ?_
      by_cases same : headerKey header.1 = headerKey name'
      · simp [same, Ne.symm different]
      · simp [same]
    simp only [listHost]
    rw [List.filter_append, kept]
    cases value <;> simp [different]

end Regnant.Filters
