import Regnant.Filters.RequestIdInjector

namespace Regnant.Filters.RequestIdInjector

variable {newV4 : Nat → Uuid} {width drawn : Nat} {buf : String}

def Lowercase (text : List Char) : Prop :=
  ∀ c ∈ text, c ∈ "0123456789abcdef".toList

theorem digitChar_lowercase : ∀ digit : Fin 16,
    Nat.digitChar digit.val ∈ "0123456789abcdef".toList := by decide

theorem Uuid.lowercase (uuid : Uuid) : Lowercase uuid.chars := by
  intro c member
  obtain ⟨digit, -, rfl⟩ := List.mem_map.mp member
  exact digitChar_lowercase digit

theorem Uuid.length_chars (uuid : Uuid) : uuid.chars.length = 32 := by
  rw [chars, List.length_map, uuid.length_eq]

def digits (newV4 : Nat → Uuid) (drawn n : Nat) : List Char :=
  (List.range n).flatMap fun i => (newV4 (drawn + i)).chars

theorem lowercase_digits (n : Nat) : Lowercase (digits newV4 drawn n) := by
  intro c member
  obtain ⟨i, -, here⟩ := List.mem_flatMap.mp member
  exact (newV4 (drawn + i)).lowercase c here

def needed (width : Nat) : Nat :=
  (width + 31) / 32

theorem digits_succ (n : Nat) :
    digits newV4 drawn (n + 1) = (newV4 drawn).chars ++ digits newV4 (drawn + 1) n := by
  simp only [digits, List.range_succ_eq_map, List.flatMap_cons, List.flatMap_map, Nat.add_zero,
    Nat.add_assoc, Nat.add_comm 1]

theorem length_digits (n : Nat) : (digits newV4 drawn n).length = 32 * n := by
  induction n generalizing drawn with
  | zero => rfl
  | succ n ih =>
      rw [digits_succ, List.length_append, ih, Uuid.length_chars]
      omega

/-! ## `uuid_hex` -/

theorem needed_of_lt (short : buf.length < width) :
    needed (width - buf.length) = needed (width - (buf.length + 32)) + 1 := by
  rw [needed, needed]
  omega

theorem fill_eq (newV4 : Nat → Uuid) (width : Nat) (buf : String) (drawn : Nat) :
    fill newV4 width buf drawn =
      (buf ++ String.ofList (digits newV4 drawn (needed (width - buf.length))),
        drawn + needed (width - buf.length)) := by
  fun_induction fill newV4 width buf drawn with
  | case1 buf drawn short ih =>
      rw [String.length_append, Uuid.length_simple] at ih
      rw [ih, needed_of_lt short, digits_succ, Uuid.simple, String.append_assoc,
        ← String.ofList_append, Nat.add_assoc, Nat.add_comm 1]
  | case2 buf drawn enough =>
      have none : needed (width - buf.length) = 0 := by
        rw [needed]
        omega
      rw [none]
      simp [digits]

theorem uuidHex_eq (newV4 : Nat → Uuid) (width drawn : Nat) :
    uuidHex newV4 width drawn =
      (String.ofList ((digits newV4 drawn (needed width)).take width), drawn + needed width) := by
  rw [uuidHex, fill_eq]
  simp [truncate]

/-! ## Trace contexts -/

def Uuid.IsV4 (uuid : Uuid) : Prop :=
  uuid.digits[12]? = some 4

def Nonzero (text : String) : Prop :=
  ∃ c ∈ text.toList, c ≠ '0'

structure Identifier (width : Nat) (text : String) : Prop where
  length_eq : text.length = width
  lowercase : Lowercase text.toList

theorem version_digit (version : (newV4 drawn).IsV4) (wide : 13 ≤ width) :
    ((digits newV4 drawn (needed width)).take width)[12]? = some '4' := by
  obtain ⟨n, more⟩ := Nat.exists_eq_succ_of_ne_zero (n := needed width) (by rw [needed]; omega)
  have inside : 12 < (newV4 drawn).chars.length := by
    rw [Uuid.length_chars]
    omega
  rw [more, digits_succ, List.getElem?_take_of_lt wide, List.getElem?_append_left inside,
    Uuid.chars, List.getElem?_map, version]
  rfl

structure Generated (newV4 : Nat → Uuid) (width drawn : Nat) : Prop where
  draws : (uuidHex newV4 width drawn).2 = drawn + (width + 31) / 32
  text : (uuidHex newV4 width drawn).1.toList =
    ((List.range ((width + 31) / 32)).flatMap fun i => (newV4 (drawn + i)).simple.toList).take width
  identifier : Identifier width (uuidHex newV4 width drawn).1
  nonzero : (∀ i < (width + 31) / 32, (newV4 (drawn + i)).IsV4) → 13 ≤ width →
    Nonzero (uuidHex newV4 width drawn).1

theorem generated (newV4 : Nat → Uuid) (width drawn : Nat) : Generated newV4 width drawn where
  draws := by
    rw [uuidHex_eq]
    rfl
  text := by
    rw [uuidHex_eq, String.toList_ofList]
    simp only [digits, Uuid.simple, String.toList_ofList]
    rfl
  identifier := by
    rw [uuidHex_eq]
    constructor
    · rw [String.length_ofList, List.length_take, length_digits, needed]
      omega
    · intro c member
      rw [String.toList_ofList] at member
      exact lowercase_digits _ c (List.mem_of_mem_take member)
  nonzero := by
    intro versions wide
    have version := version_digit (versions 0 (by omega)) wide
    refine ⟨'4', ?_, by decide⟩
    rw [uuidHex_eq, String.toList_ofList]
    exact List.mem_of_getElem? version

def WellFormed (header : String) : Prop :=
  ∃ traceId spanId, header = "00-" ++ traceId ++ "-" ++ spanId ++ "-01" ∧
    Identifier 32 traceId ∧ Nonzero traceId ∧ Identifier 16 spanId ∧ Nonzero spanId

section
variable {Headers : Type} {host : ProxyHost Headers} {headers : Headers}

def identified (host : ProxyHost Headers) (newV4 : Nat → Uuid) (headers : Headers) (drawn : Nat) :
    Headers × Nat :=
  match host.getMapValue headers "x-request-id" with
  | none => (host.setMapValue headers "x-request-id" (some (newV4 drawn).hyphenated), drawn + 1)
  | some _ => (headers, drawn)

theorem identified_values (documented : host.Documented) :
    host.values (identified host newV4 headers drawn).1 "traceparent" =
      host.values headers "traceparent" := by
  rw [identified]
  split
  · exact documented.other _ _ _ _ (by decide)
  · rfl

theorem le_identified : drawn ≤ (identified host newV4 headers drawn).2 := by
  rw [identified]
  split
  · exact Nat.le_succ drawn
  · exact Nat.le_refl drawn

theorem onHttpRequestHeaders_eq (newV4 : Nat → Uuid) (headers : Headers) (drawn : Nat) :
    let start := identified host newV4 headers drawn
    let trace := uuidHex newV4 32 start.2
    let span := uuidHex newV4 16 trace.2
    onHttpRequestHeaders newV4 host headers drawn =
      match host.getMapValue start.1 "traceparent" with
      | none => (host.setMapValue start.1 "traceparent"
          (some ("00-" ++ trace.1 ++ "-" ++ span.1 ++ "-01")), span.2)
      | some _ => start := rfl

theorem traceparent_kept (documented : host.Documented)
    (present : host.values headers "traceparent" ≠ []) :
    host.values (onHttpRequestHeaders newV4 host headers drawn).1 "traceparent" =
      host.values headers "traceparent" := by
  have same : host.values (identified host newV4 headers drawn).1 "traceparent" =
    host.values headers "traceparent" := identified_values documented
  rw [onHttpRequestHeaders_eq]
  cases found : host.getMapValue (identified host newV4 headers drawn).1 "traceparent" with
  | none => exact absurd (same.symm.trans ((documented.absent _ _).mp found)) present
  | some value => exact same

/-- For every width `uuid_hex` returns so many digits of as few UUIDs, and every trace context that
is built from UUIDs of version 4 is well formed. -/
theorem trace_contexts_well_formed (documented : host.Documented) (newV4 : Nat → Uuid) :
    (∀ width drawn, Generated newV4 width drawn) ∧
    ∀ headers drawn, host.values headers "traceparent" = [] →
      (∀ n, drawn ≤ n → n < (onHttpRequestHeaders newV4 host headers drawn).2 →
        (newV4 n).IsV4) →
      ∃ header, host.values (onHttpRequestHeaders newV4 host headers drawn).1 "traceparent" =
        [header] ∧ WellFormed header := by
  refine ⟨generated newV4, fun headers drawn absent versions => ?_⟩
  let start := identified host newV4 headers drawn
  let trace := uuidHex newV4 32 start.2
  let span := uuidHex newV4 16 trace.2
  have missing : host.getMapValue start.1 "traceparent" = none :=
    (documented.absent _ _).mpr ((identified_values documented).trans absent)
  have built : onHttpRequestHeaders newV4 host headers drawn =
      (host.setMapValue start.1 "traceparent"
        (some ("00-" ++ trace.1 ++ "-" ++ span.1 ++ "-01")), span.2) := by
    rw [onHttpRequestHeaders_eq]
    simp only [start] at missing
    simp only [missing]
    rfl
  have ofTrace := generated newV4 32 start.2
  have ofSpan := generated newV4 16 trace.2
  have traceDraws : trace.2 = start.2 + 1 := ofTrace.draws
  have spanDraws : span.2 = trace.2 + 1 := ofSpan.draws
  have begins : drawn ≤ start.2 := le_identified
  rw [built] at versions ⊢
  refine ⟨_, documented.set _ _ _ _ rfl, trace.1, span.1, rfl, ofTrace.identifier,
    ofTrace.nonzero (fun i below => versions _ ?_ ?_) (by decide), ofSpan.identifier,
    ofSpan.nonzero (fun i below => versions _ ?_ ?_) (by decide)⟩
  · omega
  · show start.2 + i < span.2
    omega
  · omega
  · show trace.2 + i < span.2
    omega

theorem request_id_copied (documented : host.Documented) (request : Headers) {rid : String}
    (identifies : host.getMapValue request "x-request-id" = some rid) :
    host.values (onHttpResponseHeaders host request headers) "x-request-id" = [rid] := by
  rw [onHttpResponseHeaders, identifies]
  exact documented.set _ _ _ _ rfl

end

def uuidV4 : Uuid :=
  ⟨List.replicate 12 0 ++ [4] ++ List.replicate 19 0, by decide⟩

theorem empty_request_well_formed :
    (∀ width drawn, Generated (fun _ => uuidV4) width drawn) ∧
    ∃ header, listHost.values (onHttpRequestHeaders (fun _ => uuidV4) listHost [] 0).1
      "traceparent" = [header] ∧ WellFormed header := by
  obtain ⟨widths, contexts⟩ := trace_contexts_well_formed listHost_documented fun _ => uuidV4
  exact ⟨widths, contexts [] 0 rfl fun _ _ _ => rfl⟩

end Regnant.Filters.RequestIdInjector
