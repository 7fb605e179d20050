import Bedspace.Search.Basic

/-!
# Which beds are free

Whether a bed is free on the nights of a search, from bookings and periods out of service that were
read before.

* A booking holds its bed for the turnaround days after its departure as well (`Occupancy.blocks`);
* `freeBeds` lists the beds of some premises that are in use, not held, and in a room with the
  characteristics that are required;
* `overlaps` lists the bookings at some premises on the nights of a search, without turnaround.
-/

namespace Bedspace

/-- Bookings and periods out of service as they were read, and the turnaround days of premises. -/
structure Occupancy where
  bookings : List Booking
  outOfService : List OutOfServicePeriod
  turnaround : PremisesId → Nat

namespace Occupancy

/-- Whether a booking holds its bed on one of some days, turnaround included. -/
def bookingBlocks (occupancy : Occupancy) (range : DateRange) (booking : Booking) : Bool :=
  booking.blocksBed
    && (booking.range.extendedBy (occupancy.turnaround booking.premisesId)).overlaps range

/-- Whether a bed is held on one of some days. -/
def blocks (occupancy : Occupancy) (range : DateRange) (bed : BedId) : Bool :=
  (occupancy.bookings.any fun booking =>
    booking.bedId = bed && occupancy.bookingBlocks range booking)
  || occupancy.outOfService.any fun period => period.blocks bed range

end Occupancy

/-- The turnaround days of premises of an estate; other premises have none. -/
def turnaroundOf (estate : List Inventory) (id : PremisesId) : Nat :=
  match estate.find? fun inventory => inventory.premises.id = id with
  | some inventory => inventory.premises.turnaroundDays
  | none => 0

/-- The longest turnaround of an estate. -/
def longestTurnaround (estate : List Inventory) : Nat :=
  (estate.map fun inventory => inventory.premises.turnaroundDays).foldl max 0

namespace RequiredCharacteristics

/-- Whether premises take bookings and have the characteristics. -/
def fitPremises (required : RequiredCharacteristics) (premises : Premises) : Bool :=
  premises.isActive && required.premises.subset premises.characteristics

/-- Whether a room has the characteristics. -/
def fitRoom (required : RequiredCharacteristics) (room : Room) : Bool :=
  required.room.subset room.characteristics

end RequiredCharacteristics

namespace Inventory

/-- The beds that are free on some days, room by room. -/
def freeBeds (inventory : Inventory) (required : RequiredCharacteristics) (range : DateRange)
    (occupancy : Occupancy) : List (Room × Bed) :=
  inventory.beds.filter fun (room, bed) =>
    required.fitRoom room && bed.inServiceOn range.start && !occupancy.blocks range bed.id

/-- The part of a booking that falls on some days, if its bed is in these premises. -/
def overlapOf? (inventory : Inventory) (range : DateRange) (booking : Booking) :
    Option BookingOverlap :=
  (inventory.locate? booking.bedId).map fun (room, _) =>
    { bookingId := booking.id, crn := booking.crn, roomId := room.id, bedId := booking.bedId
      arrivalDate := booking.arrivalDate, departureDate := booking.departureDate
      days := booking.range.overlapDays range }

/-- Whether an overlap comes before another one: by arrival date, then by booking. -/
def overlapBefore (a b : BookingOverlap) : Bool :=
  a.arrivalDate < b.arrivalDate ||
    (a.arrivalDate = b.arrivalDate && decide (a.bookingId.text ≤ b.bookingId.text))

/-- The bookings at these premises on some days, earliest arrival first. -/
def overlaps (inventory : Inventory) (range : DateRange) (bookings : List Booking) :
    List BookingOverlap :=
  let own := bookings.filter fun booking =>
    booking.premisesId = inventory.premises.id && booking.blocksBed
      && booking.range.overlaps range
  (own.filterMap (inventory.overlapOf? range)).mergeSort overlapBefore

end Inventory

end Bedspace
