import Bedspace.Booking.Basic
import Bedspace.Estate.Basic
import Bedspace.Store.Basic
import Bedspace.Validation

/-!
# Searches for free beds

A search asks for beds that are free on a number of nights from a start date, with certain
characteristics of premises and room: in approved premises near a postcode district, or in
temporary accommodation of certain probation delivery units.
-/

namespace Bedspace

/-! ## 1. Requests -/

/-- Characteristics that premises and room have to have. -/
structure RequiredCharacteristics where
  premises : TextSet
  room : TextSet

/-- No characteristics at all. -/
def RequiredCharacteristics.none : RequiredCharacteristics := ⟨∅, ∅⟩

/-- A search around a postcode district; without a distance the usual one is meant. -/
structure ApprovedPremisesSearch where
  postcodeDistrict : String
  maxDistanceMiles : Option Float
  startDate : Date
  durationDays : Int
  required : RequiredCharacteristics

/-- A search in some probation delivery units. -/
structure TemporaryAccommodationSearch where
  probationDeliveryUnits : List String
  startDate : Date
  durationDays : Int
  required : RequiredCharacteristics

/-- A search in the estate of one of the services. -/
inductive BedSearch where
  | approvedPremises (search : ApprovedPremisesSearch)
  | temporaryAccommodation (search : TemporaryAccommodationSearch)

/-! ## 2. Results -/

/-- A bed of approved premises with its distance. -/
structure ApprovedPremisesBed where
  distanceMiles : Float
  premises : Premises
  room : Room
  bed : Bed

/-- A booking at the same premises on some of the nights that are searched for. -/
structure BookingOverlap where
  bookingId : BookingId
  crn : String
  roomId : RoomId
  bedId : BedId
  arrivalDate : Date
  departureDate : Date
  days : Int

/-- Temporary accommodation with its free beds and with the bookings on the same nights. -/
structure TemporaryAccommodationGroup where
  premises : Premises
  beds : List (Room × Bed)
  overlaps : List BookingOverlap

/-- How many premises, rooms and beds a search found. -/
structure ResultCounts where
  premises : Nat
  rooms : Nat
  beds : Nat
  deriving DecidableEq, Repr

/-- What a search found. -/
inductive BedSearchResults where
  | approvedPremises (beds : List ApprovedPremisesBed)
  | temporaryAccommodation (groups : List TemporaryAccommodationGroup)

namespace BedSearchResults

/-- The number of different texts. -/
def distinct (texts : List String) : Nat := (Table.ofList texts).rows.length

/-- How much was found. -/
def counts : BedSearchResults → ResultCounts
  | approvedPremises beds =>
    ⟨distinct (beds.map fun b => b.premises.id.text), distinct (beds.map fun b => b.room.id.text),
      beds.length⟩
  | temporaryAccommodation groups =>
    ⟨groups.length,
      distinct (groups.flatMap fun g => g.beds.map fun place => place.1.id.text),
      (groups.flatMap fun g => g.beds).length⟩

end BedSearchResults

/-! ## 3. Failures -/

/-- Why a search fails. -/
inductive BedSearchError where
  | invalid (params : InvalidParams)
  | unknownPostcodeDistrict (outcode : String)
  | store (error : StoreError)
  deriving DecidableEq, Repr

/-- The wording of a failure. -/
def BedSearchError.message : BedSearchError → String
  | .invalid params => params.message
  | .unknownPostcodeDistrict outcode => "no postcode district " ++ outcode ++ " could be found"
  | .store error => error.message

end Bedspace
