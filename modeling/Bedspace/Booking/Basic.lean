import Bedspace.Calendar.DateRange
import Bedspace.Table
import Bedspace.Withdrawal

/-!
# Bookings and periods out of service

* A `Booking` holds a bed for a person from its arrival date up to its departure date. Recording an
  arrival, a non-arrival or a cancellation adds to it; only a cancellation frees the bed;
* an `OutOfServicePeriod` keeps a bed from being used, until it is cancelled;
* both cover a `DateRange`, and both say whether they block a bed on some days (`blocks`).
-/

namespace Bedspace

/-! ## 1. Bookings -/

/-- The recorded arrival of a person, with the stay as it is now expected. -/
structure Arrival where
  arrivalDate : Date
  expectedDepartureDate : Date
  notes : Option String
  deriving DecidableEq

/-- The record that a person did not arrive. -/
structure NonArrival where
  date : Date
  reason : String
  notes : Option String
  deriving DecidableEq

/-- The cancellation of a booking. -/
structure Cancellation where
  date : Date
  reason : WithdrawalReason
  notes : Option String
  deriving DecidableEq

/-- A bed held for a person, who is known by a case reference number. -/
structure Booking where
  id : BookingId
  crn : String
  premisesId : PremisesId
  bedId : BedId
  arrivalDate : Date
  departureDate : Date
  applicationId : Option ApplicationId
  placementRequestId : Option PlacementRequestId
  createdOn : Date
  arrival : Option Arrival
  nonArrival : Option NonArrival
  cancellation : Option Cancellation
  deriving DecidableEq

instance : Keyed Booking := ⟨fun booking => booking.id.text⟩

/-- What has become of a booking. -/
inductive BookingStatus where
  | awaitingArrival
  | arrived
  | notArrived
  | cancelled
  deriving DecidableEq, Repr

/-- The word for a status. -/
def BookingStatus.label : BookingStatus → String
  | .awaitingArrival => "awaiting_arrival"
  | .arrived => "arrived"
  | .notArrived => "not_arrived"
  | .cancelled => "cancelled"

namespace Booking

/-- The nights of a booking. -/
def range (booking : Booking) : DateRange := .spanning booking.arrivalDate booking.departureDate

def isCancelled (booking : Booking) : Bool := booking.cancellation.isSome

def hasArrival (booking : Booking) : Bool := booking.arrival.isSome

/-- Whether a booking holds its bed: any but a cancelled one does. -/
def blocksBed (booking : Booking) : Bool := !booking.isCancelled

/-- What has become of a booking; a cancellation outweighs an arrival, and that a non-arrival. -/
def status (booking : Booking) : BookingStatus :=
  if booking.isCancelled then .cancelled
  else if booking.hasArrival then .arrived
  else if booking.nonArrival.isSome then .notArrived
  else .awaitingArrival

/-- Whether a booking holds a bed on one of some days. -/
def blocks (booking : Booking) (bed : BedId) (range : DateRange) : Bool :=
  booking.bedId = bed && booking.blocksBed && booking.range.overlaps range

end Booking

/-- Where a booking comes from, if it comes from a placement request. -/
structure BookingLinks where
  applicationId : Option ApplicationId
  placementRequestId : Option PlacementRequestId
  deriving DecidableEq

/-- The links of a booking that stands on its own. -/
def BookingLinks.none : BookingLinks := ⟨.none, .none⟩

/-! ## 2. Periods out of service -/

/-- Days on which a bed cannot be used. -/
structure OutOfServicePeriod where
  id : OutOfServiceId
  premisesId : PremisesId
  bedId : BedId
  startDate : Date
  endDate : Date
  reason : String
  notes : Option String
  cancelledOn : Option Date
  deriving DecidableEq

instance : Keyed OutOfServicePeriod := ⟨fun period => period.id.text⟩

namespace OutOfServicePeriod

/-- The nights of a period. -/
def range (period : OutOfServicePeriod) : DateRange := .spanning period.startDate period.endDate

def isCancelled (period : OutOfServicePeriod) : Bool := period.cancelledOn.isSome

/-- Whether a period keeps a bed from being used on one of some days. -/
def blocks (period : OutOfServicePeriod) (bed : BedId) (range : DateRange) : Bool :=
  period.bedId = bed && !period.isCancelled && period.range.overlaps range

end OutOfServicePeriod

/-! ## 3. What is asked for -/

/-- The wish for a booking. -/
structure NewBooking where
  crn : String
  bedId : BedId
  arrivalDate : Date
  departureDate : Date
  deriving DecidableEq

/-- The wish for a period out of service. -/
structure NewOutOfServicePeriod where
  bedId : BedId
  startDate : Date
  endDate : Date
  reason : String
  notes : Option String
  deriving DecidableEq

end Bedspace
