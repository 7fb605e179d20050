import Bedspace.Booking.Lifecycle
import Bedspace.Json.Decode
import Bedspace.Json.Estate

/-!
# Bookings in JSON

How bookings and periods out of service are written, and the shapes of the requests for them. A
booking that is shown on its own tells its status as well (`Booking.view`).
-/

namespace Bedspace

open Json

/-! ## 1. Writing -/

/-- An arrival as JSON. -/
def Arrival.json (arrival : Arrival) : Json :=
  .object [
    ("arrivalDate", arrival.arrivalDate.json),
    ("expectedDepartureDate", arrival.expectedDepartureDate.json),
    ("notes", optional .text arrival.notes)]

/-- A non-arrival as JSON. -/
def NonArrival.json (nonArrival : NonArrival) : Json :=
  .object [
    ("date", nonArrival.date.json),
    ("reason", .text nonArrival.reason),
    ("notes", optional .text nonArrival.notes)]

/-- A cancellation as JSON. -/
def Cancellation.json (cancellation : Cancellation) : Json :=
  .object [
    ("date", cancellation.date.json),
    ("reason", .text cancellation.reason.label),
    ("notes", optional .text cancellation.notes)]

/-- The fields of a booking. -/
def Booking.jsonFields (booking : Booking) : List (String × Json) := [
  ("id", booking.id.json),
  ("crn", .text booking.crn),
  ("premisesId", booking.premisesId.json),
  ("bedId", booking.bedId.json),
  ("arrivalDate", booking.arrivalDate.json),
  ("departureDate", booking.departureDate.json),
  ("applicationId", optional Id.json booking.applicationId),
  ("placementRequestId", optional Id.json booking.placementRequestId),
  ("createdOn", booking.createdOn.json),
  ("arrival", optional Arrival.json booking.arrival),
  ("nonArrival", optional NonArrival.json booking.nonArrival),
  ("cancellation", optional Cancellation.json booking.cancellation)]

/-- A booking as JSON. -/
def Booking.json (booking : Booking) : Json := .object booking.jsonFields

/-- A booking with its status as JSON. -/
def Booking.view (booking : Booking) : Json :=
  .object (booking.jsonFields ++ [("status", .text booking.status.label)])

/-- A period out of service as JSON. -/
def OutOfServicePeriod.json (period : OutOfServicePeriod) : Json :=
  .object [
    ("id", period.id.json),
    ("premisesId", period.premisesId.json),
    ("bedId", period.bedId.json),
    ("startDate", period.startDate.json),
    ("endDate", period.endDate.json),
    ("reason", .text period.reason),
    ("notes", optional .text period.notes),
    ("cancelledOn", optional Date.json period.cancelledOn)]

/-! ## 2. Reading -/

open Shape

/-- The word of a reason for withdrawing. -/
def WithdrawalReason.decoder : Decoder WithdrawalReason := .word WithdrawalReason.ofLabel?

/-- The shape of a wish for a booking. -/
def NewBooking.shape : Shape NewBooking :=
  NewBooking.mk
    <$> required "crn" .text
    <*> required "bedId" .id
    <*> required "arrivalDate" .date
    <*> required "departureDate" .date

/-- The shape of a wish for a period out of service. -/
def NewOutOfServicePeriod.shape : Shape NewOutOfServicePeriod :=
  NewOutOfServicePeriod.mk
    <$> required "bedId" .id
    <*> required "startDate" .date
    <*> required "endDate" .date
    <*> required "reason" .text
    <*> Shape.optional "notes" .text

/-- The shape of a wish to record an arrival. -/
def ArrivalRequest.shape : Shape ArrivalRequest :=
  ArrivalRequest.mk
    <$> required "arrivalDate" .date
    <*> required "expectedDepartureDate" .date
    <*> Shape.optional "notes" .text

/-- The shape of a wish to record a non-arrival. -/
def NonArrivalRequest.shape : Shape NonArrivalRequest :=
  NonArrivalRequest.mk
    <$> required "date" .date
    <*> required "reason" .text
    <*> Shape.optional "notes" .text

/-- The shape of a wish to cancel a booking. -/
def CancellationRequest.shape : Shape CancellationRequest :=
  CancellationRequest.mk
    <$> required "date" .date
    <*> required "reason" WithdrawalReason.decoder
    <*> Shape.optional "notes" .text

end Bedspace
