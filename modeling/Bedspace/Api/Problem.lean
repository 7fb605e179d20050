import Bedspace.Application.Lifecycle
import Bedspace.Json.Value
import Bedspace.Search.Basic

/-!
# Problems

A request that fails is answered with a problem: a status with its title, what is wrong, and the
rules that the request breaks if it is not valid. Each error of the domain has its problem, by what
it means to the one who asked: something is not there, the request cannot be met as it stands, it
collides with something, or the fault is not theirs.
-/

namespace Bedspace

/-- The kinds of problem. -/
inductive ProblemKind where
  | badRequest
  | notFound
  | conflict
  | internal
  deriving DecidableEq, Repr

/-- The status of a kind. -/
def ProblemKind.status : ProblemKind → Nat
  | .badRequest => 400
  | .notFound => 404
  | .conflict => 409
  | .internal => 500

/-- The title of a kind. -/
def ProblemKind.title : ProblemKind → String
  | .badRequest => "Bad Request"
  | .notFound => "Not Found"
  | .conflict => "Conflict"
  | .internal => "Internal Server Error"

/-- What a failed request is answered with. -/
structure Problem where
  kind : ProblemKind
  detail : String
  invalidParams : InvalidParams
  deriving DecidableEq

namespace Problem

/-- A problem without broken rules. -/
def plain (kind : ProblemKind) (detail : String) : Problem := ⟨kind, detail, []⟩

/-- The problem of a request that breaks rules. -/
def ofInvalid (params : InvalidParams) : Problem :=
  ⟨.badRequest, "There is a problem with your request", params⟩

/-- A broken rule as JSON. -/
def paramJson (param : InvalidParam) : Json :=
  .object [("propertyName", .text param.propertyName), ("errorType", .text param.errorType)]

/-- A problem as JSON. The broken rules are left out if there are none. -/
def json (problem : Problem) : Json :=
  .object ([
    ("status", .nat problem.kind.status),
    ("title", .text problem.kind.title),
    ("detail", .text problem.detail)]
  ++ if problem.invalidParams.isEmpty then []
    else [("invalid-params", .listOf paramJson problem.invalidParams)])

end Problem

/-- What a refusal of the store means to the one who asked. -/
def StoreError.problemKind : StoreError → ProblemKind
  | .notFound => .notFound
  | .conflict => .conflict
  | .stale => .badRequest
  | .unavailable _ => .internal

/-- The problem of a refusal of the store. -/
def StoreError.problem (error : StoreError) : Problem := .plain error.problemKind error.message

/-- The problem of a failed operation on bookings. -/
def BookingError.problem (error : BookingError) : Problem :=
  match error with
  | .invalid params => .ofInvalid params
  | .premisesNotFound _ => .plain .notFound error.message
  | .bookingNotFound _ => .plain .notFound error.message
  | .outOfServiceNotFound _ => .plain .notFound error.message
  | .obstacle _ => .plain .badRequest error.message
  | .bedTaken _ _ => .plain .conflict error.message
  | .store error => error.problem

/-- The problem of a failed search. -/
def BedSearchError.problem (error : BedSearchError) : Problem :=
  match error with
  | .invalid params => .ofInvalid params
  | .unknownPostcodeDistrict _ => .plain .notFound error.message
  | .store error => error.problem

/-- The problem of a failed withdrawal. -/
def CascadeError.problem (error : CascadeError) : Problem :=
  match error with
  | .arrivalRecorded _ => .plain .badRequest error.message
  | .notInTree _ => .plain .notFound error.message

/-- The problem of a failed operation on applications. -/
def ApplicationError.problem (error : ApplicationError) : Problem :=
  match error with
  | .invalid params => .ofInvalid params
  | .notFound _ => .plain .notFound error.message
  | .alreadySubmitted _ => .plain .badRequest error.message
  | .obstacle _ => .plain .badRequest error.message
  | .cascade error => error.problem
  | .booking error => error.problem
  | .store error => error.problem

end Bedspace
