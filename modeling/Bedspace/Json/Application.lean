import Bedspace.Application.Lifecycle
import Bedspace.Json.Booking

/-!
# Applications in JSON

How applications and what hangs on them are written, and the shapes of the requests for them.
-/

namespace Bedspace

open Json

/-! ## 1. Writing -/

/-- A withdrawal as JSON. -/
def Withdrawal.json (withdrawal : Withdrawal) : Json :=
  .object [
    ("reason", .text withdrawal.reason.label),
    ("withdrawnOn", withdrawal.withdrawnOn.json),
    ("notes", optional .text withdrawal.notes)]

/-- A decision as JSON. -/
def Decision.json (decision : Decision) : Json := .text decision.label

/-- An application as JSON. -/
def Application.json (application : Application) : Json :=
  .object [
    ("id", application.id.json),
    ("crn", .text application.crn),
    ("status", .text application.status.label),
    ("createdOn", application.createdOn.json),
    ("submittedOn", optional Date.json application.submittedOn),
    ("withdrawal", optional Withdrawal.json application.withdrawal)]

/-- An assessment as JSON. -/
def Assessment.json (assessment : Assessment) : Json :=
  .object [
    ("id", assessment.id.json),
    ("applicationId", assessment.applicationId.json),
    ("allocatedOn", assessment.allocatedOn.json),
    ("decision", optional Decision.json assessment.decision),
    ("reallocatedOn", optional Date.json assessment.reallocatedOn),
    ("withdrawn", .bool assessment.withdrawn)]

/-- A placement application as JSON. -/
def PlacementApplication.json (placement : PlacementApplication) : Json :=
  .object [
    ("id", placement.id.json),
    ("applicationId", placement.applicationId.json),
    ("createdOn", placement.createdOn.json),
    ("decision", optional Decision.json placement.decision),
    ("withdrawal", optional Withdrawal.json placement.withdrawal)]

/-- A placement request as JSON. -/
def PlacementRequest.json (request : PlacementRequest) : Json :=
  .object [
    ("id", request.id.json),
    ("applicationId", request.applicationId.json),
    ("placementApplicationId", optional Id.json request.placementApplicationId),
    ("expectedArrival", request.expectedArrival.json),
    ("durationDays", nat request.durationDays),
    ("createdOn", request.createdOn.json),
    ("withdrawal", optional Withdrawal.json request.withdrawal)]

/-- The tree of an application as JSON. -/
def Tree.json (tree : Tree) : Json :=
  .object [
    ("application", tree.application.json),
    ("assessments", listOf Assessment.json tree.assessments),
    ("placementApplications", listOf PlacementApplication.json tree.placementApplications),
    ("placementRequests", listOf PlacementRequest.json tree.placementRequests),
    ("bookings", listOf Booking.json tree.bookings)]

/-- The fields that name a node. -/
def Entity.jsonFields (entity : Entity) : List (String × Json) :=
  [("type", .text entity.kindLabel), ("id", .text entity.idText)]

/-- The name of a node as JSON. -/
def Entity.json (entity : Entity) : Json := .object entity.jsonFields

/-- A node that was passed over as JSON. -/
def SkippedEntity.json (skipped : SkippedEntity) : Json :=
  .object [("entity", skipped.entity.json), ("reason", .text skipped.reason.label)]

/-- The outcome of a withdrawal as JSON. -/
def WithdrawalOutcome.json (outcome : WithdrawalOutcome) : Json :=
  .object [
    ("root", outcome.root.json),
    ("withdrawn", listOf Entity.json outcome.withdrawn),
    ("skipped", listOf SkippedEntity.json outcome.skipped)]

/-- A node that may be withdrawn as JSON. -/
def Withdrawable.json (withdrawable : Withdrawable) : Json :=
  .object (withdrawable.target.entity.jsonFields ++ [
    ("startDate", optional Date.json withdrawable.startDate),
    ("endDate", optional Date.json withdrawable.endDate)])

/-! ## 2. Reading -/

open Shape

/-- The shape of a wish for an application: the case reference number of the person. -/
def Application.requestShape : Shape String := required "crn" .text

/-- The shape of a wish for a placement application: the application it is for. -/
def PlacementApplication.requestShape : Shape ApplicationId := required "applicationId" .id

/-- The shape of the nights of a placement. -/
def PlacementDates.shape : Shape PlacementDates :=
  PlacementDates.mk
    <$> required "expectedArrival" .date
    <*> required "durationDays" .nat32

/-- A decision on a placement application, told apart by its word. -/
def PlacementDecision.decoder : Decoder PlacementDecision :=
  tagged "decision" Decision.ofLabel? fun decision =>
    match decision with
    | .accepted =>
      (PlacementDecision.accepted
        <$> required "placementDates" PlacementDates.shape.decoder).decoder
    | .rejected => (pure PlacementDecision.rejected : Shape PlacementDecision).decoder

/-- The shape of the bed and the nights chosen for a placement request. -/
def PlacementBooking.shape : Shape PlacementBooking :=
  PlacementBooking.mk
    <$> required "premisesId" .id
    <*> required "bedId" .id
    <*> required "arrivalDate" .date
    <*> required "departureDate" .date

/-- The shape of a wish to withdraw something. -/
def WithdrawalRequest.shape : Shape WithdrawalRequest :=
  WithdrawalRequest.mk
    <$> required "reason" WithdrawalReason.decoder
    <*> Shape.optional "notes" .text

end Bedspace
