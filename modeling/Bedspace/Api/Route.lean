import Bedspace.Api.Action
import Bedspace.Api.MediaType
import Bedspace.Api.Target

/-!
# Which action a request means

A request names a method and a target and may carry a body. The path leads to an `Endpoint`, which
takes certain methods; there the segments of the path, the query and the body are read, in that
order, and the first of them that cannot be used is the reason for turning the request away
(`Rejection`).

* `endpoint?` is the table of all paths below `/api/v1`;
* `Rejection.status` and `Rejection.message` say how a request is turned away;
* bodies have to be declared as JSON before they are looked at.
-/

namespace Bedspace

open Json Text

/-! ## 1. Requests -/

/-- A request as it comes in; the body is JSON as far as it goes. -/
structure HttpRequest where
  method : String
  target : Target
  contentType : Option String
  body : Document

/-- Whether a text can be a method. -/
def isMethod (s : String) : Bool := !s.isEmpty && s.toList.all MediaType.isNameChar

/-- Whether a text can be the value of a header: of the control characters only the tab can be part
    of one. -/
def isHeaderValue (s : String) : Bool :=
  s.toList.all fun c => c = '\t' || (0x20 ≤ c.toNat && c.toNat ≠ 0x7F)

/-- The request with a method, a target and the type of its content as they were written, if they
    can be. -/
def HttpRequest.ofTexts? (method target : String) (contentType : Option String) (body : Document) :
    Option HttpRequest :=
  if isMethod method && contentType.all isHeaderValue then
    (Target.ofText? target).map fun target => ⟨method, target, contentType, body⟩
  else none

/-- Why a request is turned away before it means anything. -/
inductive Rejection where
  | unreadableSegment
  | unusableQuery
  | notDeclaredJson
  | body (fault : DecodeFault)
  deriving DecidableEq, Repr

/-- The status of the answer to a request that is turned away. -/
def Rejection.status : Rejection → Nat
  | unreadableSegment => 400
  | unusableQuery => 400
  | notDeclaredJson => 415
  | body .malformed => 400
  | body .mismatched => 422

/-- The wording of the answer to a request that is turned away. -/
def Rejection.message : Rejection → String
  | unreadableSegment => "The path holds bytes that are not UTF-8"
  | unusableQuery => "The query cannot be used"
  | notDeclaredJson => "The body has to be JSON, with a content type that says so"
  | body .malformed => "The body is not JSON"
  | body .mismatched => "The body is JSON of another shape"

/-- What a request means, or why it is turned away. -/
abbrev Handler := HttpRequest → Except Rejection Action

/-- What stands at a path: the meaning of reading it and of posting to it, if there is one. -/
structure Endpoint where
  get : Option Handler
  post : Option Handler

namespace Endpoint

/-- An endpoint that can only be read. -/
def reading (handler : Handler) : Endpoint := ⟨some handler, none⟩

/-- An endpoint that can only be posted to. -/
def posting (handler : Handler) : Endpoint := ⟨none, some handler⟩

/-- The methods that an endpoint takes. -/
def allowed (endpoint : Endpoint) : List String :=
  (if endpoint.get.isSome then ["GET", "HEAD"] else [])
    ++ if endpoint.post.isSome then ["POST"] else []

/-- The meaning of a method, if the endpoint takes it. -/
def handler? (endpoint : Endpoint) (method : String) : Option Handler :=
  match method with
  | "GET" | "HEAD" => endpoint.get
  | "POST" => endpoint.post
  | _ => none

end Endpoint

/-! ## 2. Parts of a request -/

/-- The text of a segment. -/
def segmentText (segment : String) : Except Rejection String :=
  match Target.decodeSegment segment with
  | some decoded => .ok decoded
  | none => .error .unreadableSegment

/-- The identifier in a segment. -/
def segmentId {kind : Kind} (segment : String) : Except Rejection (Id kind) :=
  (segmentText segment).map Id.mk

/-- A value of the query, which may be given once. -/
def queryValue {α : Type} (request : HttpRequest) (name : String) (parse : String → Option α) :
    Except Rejection (Option α) :=
  match request.target.pairs.filter fun pair => pair.1 = name with
  | [] => .ok none
  | [(_, raw)] =>
    match parse raw with
    | some a => .ok (some a)
    | none => .error .unusableQuery
  | _ => .error .unusableQuery

/-- The page that a query asks for. -/
def queryPage (request : HttpRequest) : Except Rejection PageCriteria := do
  let page ← queryValue request "page" (readNat limit32)
  let perPage ← queryValue request "perPage" (readNat limit32)
  pure ⟨page, perPage⟩

/-- The value of the body. -/
def bodyValue {α : Type} (request : HttpRequest) (decode : Decoder α) : Except Rejection α :=
  if request.contentType.any MediaType.isJson then (decode request.body).mapError .body
  else .error .notDeclaredJson

/-! ## 3. Kinds of handler -/

/-- A request that is about one thing. -/
def about {kind : Kind} (segment : String) (action : Id kind → Action) : Handler :=
  fun _ => (segmentId segment).map action

/-- A request that is about one thing and brings a body. -/
def aboutWith {kind : Kind} {α : Type} (segment : String) (decode : Decoder α)
    (action : Id kind → α → Action) : Handler := fun request => do
  let id ← segmentId segment
  let value ← bodyValue request decode
  pure (action id value)

/-- A request that is about one thing of another. -/
def aboutTwo {kind kind' : Kind} (segment segment' : String)
    (action : Id kind → Id kind' → Action) : Handler := fun _ => do
  let id ← segmentId segment
  let id' ← segmentId segment'
  pure (action id id')

/-- A request that is about one thing of another and brings a body. -/
def aboutTwoWith {kind kind' : Kind} {α : Type} (segment segment' : String) (decode : Decoder α)
    (action : Id kind → Id kind' → α → Action) : Handler := fun request => do
  let id ← segmentId segment
  let id' ← segmentId segment'
  let value ← bodyValue request decode
  pure (action id id' value)

/-- A request that only brings a body. -/
def bringing {α : Type} (decode : Decoder α) (action : α → Action) : Handler := fun request =>
  (bodyValue request decode).map action

/-- A request to list premises. -/
def listingPremises : Handler := fun request => do
  let service ← queryValue request "service" Service.ofLabel?
  let criteria ← queryPage request
  pure (.listPremises service criteria)

/-- A request to list the bookings at some premises. -/
def listingBookings (premises : String) : Handler := fun request => do
  let id ← segmentId premises
  let criteria ← queryPage request
  pure (.listBookings id criteria)

/-- A request to withdraw something. -/
def withdrawing {kind : Kind} (segment : String) (target : Id kind → WithdrawalTarget) :
    Handler :=
  aboutWith segment WithdrawalRequest.shape.decoder fun id request => .withdraw (target id) request

/-! ## 4. Paths -/

/-- What stands at a path below premises. -/
def premisesEndpoint? : List String → Option Endpoint
  | [] => some (.reading listingPremises)
  | [premises] => some (.reading (about premises .showPremises))
  | [premises, "bookings"] =>
    some ⟨some (listingBookings premises),
      some (aboutWith premises NewBooking.shape.decoder .createBooking)⟩
  | [premises, "bookings", booking] =>
    some (.reading (aboutTwo premises booking .showBooking))
  | [premises, "bookings", booking, "arrivals"] =>
    some (.posting (aboutTwoWith premises booking ArrivalRequest.shape.decoder .recordArrival))
  | [premises, "bookings", booking, "non-arrivals"] =>
    some (.posting
      (aboutTwoWith premises booking NonArrivalRequest.shape.decoder .recordNonArrival))
  | [premises, "bookings", booking, "cancellations"] =>
    some (.posting
      (aboutTwoWith premises booking CancellationRequest.shape.decoder .cancelBooking))
  | [premises, "out-of-service-beds"] =>
    some (.posting (aboutWith premises NewOutOfServicePeriod.shape.decoder .takeOutOfService))
  | [premises, "out-of-service-beds", period, "cancellations"] =>
    some (.posting (aboutTwo premises period .cancelOutOfService))
  | _ => none

/-- What stands at a path below applications. -/
def applicationEndpoint? : List String → Option Endpoint
  | [] => some (.posting (bringing Application.requestShape.decoder .createApplication))
  | [application] => some (.reading (about application .showApplication))
  | [application, "submission"] => some (.posting (about application .submit))
  | [application, "withdrawables"] => some (.reading (about application .listWithdrawables))
  | [application, "withdrawal"] => some (.posting (withdrawing application .application))
  | _ => none

/-- What stands at a path below assessments. -/
def assessmentEndpoint? : List String → Option Endpoint
  | [assessment, "acceptance"] =>
    some (.posting (aboutWith assessment PlacementDates.shape.decoder .acceptAssessment))
  | [assessment, "rejection"] => some (.posting (about assessment .rejectAssessment))
  | [assessment, "reallocation"] => some (.posting (about assessment .reallocateAssessment))
  | _ => none

/-- What stands at a path below placement applications. -/
def placementEndpoint? : List String → Option Endpoint
  | [] => some (.posting (bringing PlacementApplication.requestShape.decoder .createPlacement))
  | [placement, "decision"] =>
    some (.posting (aboutWith placement PlacementDecision.decoder .decidePlacement))
  | [placement, "withdrawal"] =>
    some (.posting (withdrawing placement .placementApplication))
  | _ => none

/-- What stands at a path below placement requests. -/
def requestEndpoint? : List String → Option Endpoint
  | [request, "booking"] =>
    some (.posting (aboutWith request PlacementBooking.shape.decoder .bookRequest))
  | [request, "withdrawal"] => some (.posting (withdrawing request .placementRequest))
  | _ => none

/-- What stands at a path, given by its segments. Segments are never empty. -/
def endpoint? (segments : List String) : Option Endpoint :=
  if segments.contains "" then none
  else
    match segments with
    | "api" :: "v1" :: "premises" :: rest => premisesEndpoint? rest
    | ["api", "v1", "beds", "search"] =>
      some (.posting (bringing BedSearch.decoder .searchBeds))
    | "api" :: "v1" :: "applications" :: rest => applicationEndpoint? rest
    | "api" :: "v1" :: "assessments" :: rest => assessmentEndpoint? rest
    | "api" :: "v1" :: "placement-applications" :: rest => placementEndpoint? rest
    | "api" :: "v1" :: "placement-requests" :: rest => requestEndpoint? rest
    | ["api", "v1", "bookings", booking, "withdrawal"] =>
      some (.posting (withdrawing booking .booking))
    | _ => none

end Bedspace
