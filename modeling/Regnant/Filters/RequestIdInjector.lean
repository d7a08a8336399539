import Regnant.Filters.Host

namespace Regnant.Filters.RequestIdInjector

structure Uuid where
  digits : List (Fin 16)
  length_eq : digits.length = 32

namespace Uuid

def chars (uuid : Uuid) : List Char :=
  uuid.digits.map fun digit => Nat.digitChar digit.val

def simple (uuid : Uuid) : String :=
  String.ofList uuid.chars

def hyphenated (uuid : Uuid) : String :=
  let part (start length : Nat) : String := String.ofList ((uuid.chars.drop start).take length)
  part 0 8 ++ "-" ++ part 8 4 ++ "-" ++ part 12 4 ++ "-" ++ part 16 4 ++ "-" ++ part 20 12

theorem length_simple (uuid : Uuid) : uuid.simple.length = 32 := by
  rw [simple, String.length_ofList, chars, List.length_map, uuid.length_eq]

end Uuid

section
variable (newV4 : Nat → Uuid)

/-- The loop of `uuid_hex`. All characters are ASCII, so lengths count bytes. -/
def fill (width : Nat) (buf : String) (drawn : Nat) : String × Nat :=
  if buf.length < width then fill width (buf ++ (newV4 drawn).simple) (drawn + 1)
  else (buf, drawn)
termination_by width - buf.length
decreasing_by
  rw [String.length_append, Uuid.length_simple]
  omega

def truncate (width : Nat) (buf : String) : String :=
  String.ofList (buf.toList.take width)

def uuidHex (width drawn : Nat) : String × Nat :=
  let (buf, drawn) := fill newV4 width "" drawn
  (truncate width buf, drawn)

variable {Headers : Type} (host : ProxyHost Headers)

def onHttpRequestHeaders (headers : Headers) (drawn : Nat) : Headers × Nat :=
  let (headers, drawn) :=
    match host.getMapValue headers "x-request-id" with
    | none =>
        let requestId := (newV4 drawn).hyphenated
        (host.setMapValue headers "x-request-id" (some requestId), drawn + 1)
    | some _ => (headers, drawn)
  match host.getMapValue headers "traceparent" with
  | none =>
      let (traceId, drawn) := uuidHex newV4 32 drawn
      let (spanId, drawn) := uuidHex newV4 16 drawn
      let header := "00-" ++ traceId ++ "-" ++ spanId ++ "-01"
      (host.setMapValue headers "traceparent" (some header), drawn)
  | some _ => (headers, drawn)

end

def onHttpResponseHeaders {Headers : Type} (host : ProxyHost Headers) (request headers : Headers) :
    Headers :=
  match host.getMapValue request "x-request-id" with
  | some rid => host.setMapValue headers "x-request-id" (some rid)
  | none => headers

end Regnant.Filters.RequestIdInjector
