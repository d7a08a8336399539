import Mathlib.Logic.Basic

namespace Regnant.Osb

inductive OsbErrorKind where
  | instanceNotFound
  | bindingNotFound
  | conflict
  | asyncRequired
  | concurrencyError
  | badRequest
  deriving DecidableEq

def OsbErrorKind.statusCode : OsbErrorKind → Nat
  | .instanceNotFound => 404
  | .bindingNotFound => 404
  | .conflict => 409
  | .asyncRequired => 422
  | .concurrencyError => 422
  | .badRequest => 400

def OsbErrorKind.errorCode : OsbErrorKind → String
  | .instanceNotFound => "InstanceNotFound"
  | .bindingNotFound => "BindingNotFound"
  | .conflict => "Conflict"
  | .asyncRequired => "AsyncRequired"
  | .concurrencyError => "ConcurrencyError"
  | .badRequest => "BadRequest"

structure OsbError where
  kind : OsbErrorKind
  message : String
  deriving DecidableEq

/-- The exceptions of the broker's code: its own errors, those of the language, and those of the
AWS client (`clientError` is any failure of a table, bucket or queue call). -/
inductive Exn where
  | osb (error : OsbError)
  | keyError (key : String)
  | typeError
  | valueError
  | overflowError
  | attributeError
  | conditionalCheckFailed
  | clientError
  deriving DecidableEq

end Regnant.Osb
