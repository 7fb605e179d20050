import Bedspace.Json.Booking
import Bedspace.Search.Basic

/-!
# Searches in JSON

The shapes of searches, told apart by the name of the service, and how results are written.
-/

namespace Bedspace

open Json

/-! ## 1. Writing -/

/-- Premises among the results of a search. -/
def Premises.resultJson (premises : Premises) : Json :=
  .object [
    ("id", premises.id.json),
    ("name", .text premises.name),
    ("postcode", .text premises.postcode),
    ("probationDeliveryUnit", .text premises.probationDeliveryUnit),
    ("characteristics", TextSet.json premises.characteristics)]

/-- A room and one of its beds among the results of a search. -/
def bedResultFields (room : Room) (bed : Bed) : List (String × Json) := [
  ("room", .object [
    ("id", room.id.json),
    ("name", .text room.name),
    ("characteristics", TextSet.json room.characteristics)]),
  ("bed", .object [("id", bed.id.json), ("name", .text bed.name)])]

/-- A bed of approved premises as JSON. -/
def ApprovedPremisesBed.json (result : ApprovedPremisesBed) : Json :=
  .object ([
    ("distanceMiles", .real result.distanceMiles),
    ("premises", result.premises.resultJson)] ++ bedResultFields result.room result.bed)

/-- A booking on the nights of a search as JSON. -/
def BookingOverlap.json (overlap : BookingOverlap) : Json :=
  .object [
    ("bookingId", overlap.bookingId.json),
    ("crn", .text overlap.crn),
    ("roomId", overlap.roomId.json),
    ("bedId", overlap.bedId.json),
    ("arrivalDate", overlap.arrivalDate.json),
    ("departureDate", overlap.departureDate.json),
    ("days", .int overlap.days)]

/-- Temporary accommodation with its free beds as JSON. -/
def TemporaryAccommodationGroup.json (group : TemporaryAccommodationGroup) : Json :=
  .object [
    ("premises", group.premises.resultJson),
    ("beds", listOf (fun (room, bed) => .object (bedResultFields room bed)) group.beds),
    ("overlaps", listOf BookingOverlap.json group.overlaps)]

namespace BedSearchResults

/-- The service whose estate was searched. -/
def service : BedSearchResults → Service
  | approvedPremises _ => .approvedPremises
  | temporaryAccommodation _ => .temporaryAccommodation

/-- The list of what was found as JSON. -/
def listJson : BedSearchResults → Json
  | approvedPremises beds => listOf ApprovedPremisesBed.json beds
  | temporaryAccommodation groups => listOf TemporaryAccommodationGroup.json groups

/-- The results of a search as JSON. -/
def json (results : BedSearchResults) : Json :=
  let counts := results.counts
  .object [
    ("serviceName", .text results.service.label),
    ("resultsPremisesCount", nat counts.premises),
    ("resultsRoomCount", nat counts.rooms),
    ("resultsBedCount", nat counts.beds),
    ("results", results.listJson)]

end BedSearchResults

/-! ## 2. Reading -/

open Shape

/-- The shape of required characteristics. -/
def RequiredCharacteristics.shape : Shape RequiredCharacteristics :=
  RequiredCharacteristics.mk
    <$> withFallback "premises" .textSet ∅
    <*> withFallback "room" .textSet ∅

/-- The shape of a search in approved premises. -/
def ApprovedPremisesSearch.shape : Shape ApprovedPremisesSearch :=
  ApprovedPremisesSearch.mk
    <$> Shape.required "postcodeDistrict" .text
    <*> Shape.optional "maxDistanceMiles" .real
    <*> Shape.required "startDate" .date
    <*> Shape.required "durationDays" .int64
    <*> withFallback "requiredCharacteristics" RequiredCharacteristics.shape.decoder .none

/-- The shape of a search in temporary accommodation. -/
def TemporaryAccommodationSearch.shape : Shape TemporaryAccommodationSearch :=
  TemporaryAccommodationSearch.mk
    <$> Shape.required "probationDeliveryUnits" (.list .text)
    <*> Shape.required "startDate" .date
    <*> Shape.required "durationDays" .int64
    <*> withFallback "requiredCharacteristics" RequiredCharacteristics.shape.decoder .none

/-- A search, told apart by the name of its service. -/
def BedSearch.decoder : Decoder BedSearch :=
  tagged "serviceName" Service.ofLabel? fun service =>
    match service with
    | .approvedPremises =>
      (BedSearch.approvedPremises <$> ApprovedPremisesSearch.shape).decoder
    | .temporaryAccommodation =>
      (BedSearch.temporaryAccommodation <$> TemporaryAccommodationSearch.shape).decoder

end Bedspace
