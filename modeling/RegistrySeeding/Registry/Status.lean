import RegistrySeeding.Json.Choice

/-! Status codes of the registry's error answers: their wire names, and what an HTTP status
stands for when the answer names no code. -/
namespace RegistrySeeding

inductive Status where
  | canceled
  | unknown
  | invalidArgument
  | deadlineExceeded
  | notFound
  | alreadyExists
  | permissionDenied
  | resourceExhausted
  | failedPrecondition
  | aborted
  | outOfRange
  | unimplemented
  | internal
  | unavailable
  | dataLoss
  | unauthenticated
  deriving DecidableEq, Repr

namespace Status

def name : Status → String
  | canceled => "canceled"
  | unknown => "unknown"
  | invalidArgument => "invalid_argument"
  | deadlineExceeded => "deadline_exceeded"
  | notFound => "not_found"
  | alreadyExists => "already_exists"
  | permissionDenied => "permission_denied"
  | resourceExhausted => "resource_exhausted"
  | failedPrecondition => "failed_precondition"
  | aborted => "aborted"
  | outOfRange => "out_of_range"
  | unimplemented => "unimplemented"
  | internal => "internal"
  | unavailable => "unavailable"
  | dataLoss => "data_loss"
  | unauthenticated => "unauthenticated"

def all : List Status :=
  [canceled, unknown, invalidArgument, deadlineExceeded, notFound, alreadyExists, permissionDenied,
   resourceExhausted, failedPrecondition, aborted, outOfRange, unimplemented, internal, unavailable,
   dataLoss, unauthenticated]

def choice : Json.Choice Status := ⟨name, all⟩

def codec : Json.Codec Status := choice.codec

def ofWire (s : String) : Status :=
  if s = "cancelled" then canceled else (choice.ofName? s).getD unknown

def ofHttp (status : Nat) : Status :=
  match status with
  | 400 => invalidArgument
  | 401 => unauthenticated
  | 403 => permissionDenied
  | 404 => notFound
  | 408 => deadlineExceeded
  | 409 => alreadyExists
  | 429 => unavailable
  | 499 => canceled
  | 500 => internal
  | 501 => unimplemented
  | 502 => unavailable
  | 503 => unavailable
  | 504 => deadlineExceeded
  | _ => unknown

end Status
end RegistrySeeding
