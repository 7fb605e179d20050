import Bedspace.Booking.Basic
import Bedspace.Store.Program
import Bedspace.Text.Blank
import Bedspace.Validation

/-!
# Making and changing bookings

What the people who run premises do with bookings and with periods out of service, as operations
over the store.

* `Bookings.create` and `Bookings.takeOutOfService` look for anything that holds the bed on one of
  the nights, first among bookings, then among periods, and name what they find; that nothing came
  in between is checked once more when the record is written;
* `recordArrival`, `recordNonArrival` and `cancel` change a booking as it was read, and fail if it
  has changed since. An arrival moves the dates of the booking;
* cancelling what is cancelled changes nothing and succeeds.
-/

namespace Bedspace

open Text

/-! ## 1. What can go wrong -/

/-- What holds a bed on the nights for which it is wanted. -/
inductive BedHolder where
  | booking (id : BookingId) (arrivalDate departureDate : Date)
  | outOfService (id : OutOfServiceId) (startDate endDate : Date)
  /-- Something that was written while the request was being dealt with. -/
  | concurrentWrite
  deriving DecidableEq

/-- The wording for what holds a bed. -/
def BedHolder.message : BedHolder → String
  | .booking id arrivalDate departureDate =>
    "booking " ++ id.text ++ " from " ++ arrivalDate.text ++ " to " ++ departureDate.text
  | .outOfService id startDate endDate =>
    "out-of-service period " ++ id.text ++ " from " ++ startDate.text ++ " to " ++ endDate.text
  | .concurrentWrite => "a concurrent write for the same dates"

/-- Why premises or a booking are not in the state that an operation needs. -/
inductive BookingObstacle where
  | premisesArchived (premises : PremisesId)
  | cancelled (booking : BookingId)
  | arrivalRecorded (booking : BookingId)
  | nonArrivalRecorded (booking : BookingId)
  | arrivalForbidsCancelling (booking : BookingId)
  | changedMeanwhile (booking : BookingId)
  | requestClosedMeanwhile
  deriving DecidableEq, Repr

/-- The wording of an obstacle. -/
def BookingObstacle.message : BookingObstacle → String
  | .premisesArchived premises =>
    "premises " ++ premises.text ++ " is archived and cannot take bookings"
  | .cancelled booking => "booking " ++ booking.text ++ " is cancelled"
  | .arrivalRecorded booking => "an arrival is already recorded for booking " ++ booking.text
  | .nonArrivalRecorded booking => "a non-arrival is already recorded for booking " ++ booking.text
  | .arrivalForbidsCancelling booking =>
    "booking " ++ booking.text ++ " has an arrival recorded and cannot be cancelled"
  | .changedMeanwhile booking =>
    "booking " ++ booking.text ++ " changed while being updated; reload and try again"
  | .requestClosedMeanwhile => "the placement request has already been booked or withdrawn"

/-- Why an operation on bookings fails. -/
inductive BookingError where
  | premisesNotFound (id : PremisesId)
  | bookingNotFound (id : BookingId)
  | outOfServiceNotFound (id : OutOfServiceId)
  | invalid (params : InvalidParams)
  | obstacle (obstacle : BookingObstacle)
  | bedTaken (bed : BedId) (holder : BedHolder)
  | store (error : StoreError)
  deriving DecidableEq

/-- The wording of a failure. -/
def BookingError.message : BookingError → String
  | .premisesNotFound id => "no premises with an id of " ++ id.text ++ " could be found"
  | .bookingNotFound id => "no booking with an id of " ++ id.text ++ " could be found"
  | .outOfServiceNotFound id =>
    "no out-of-service period with an id of " ++ id.text ++ " could be found"
  | .invalid params => params.message
  | .obstacle reason => reason.message
  | .bedTaken bed holder =>
    "bed " ++ bed.text ++ " is unavailable: conflicts with " ++ holder.message
  | .store error => error.message

/-- What an error of the store means to the writer of a record that holds a bed. -/
def BookingError.ofWrite (bed : BedId) : StoreError → BookingError
  | .conflict => .bedTaken bed .concurrentWrite
  | .stale => .obstacle .requestClosedMeanwhile
  | error => .store error

/-- What an error of the store means to someone who changes a booking as it was read. -/
def BookingError.ofChange (booking : Booking) : StoreError → BookingError
  | .stale => .obstacle (.changedMeanwhile booking.id)
  | error => .ofWrite booking.bedId error

/-! ## 2. What is asked for -/

/-- The wish to record an arrival. -/
structure ArrivalRequest where
  arrivalDate : Date
  expectedDepartureDate : Date
  notes : Option String
  deriving DecidableEq

/-- The wish to record that a person did not arrive. -/
structure NonArrivalRequest where
  date : Date
  reason : String
  notes : Option String
  deriving DecidableEq

/-- The wish to cancel a booking. -/
structure CancellationRequest where
  date : Date
  reason : WithdrawalReason
  notes : Option String
  deriving DecidableEq

namespace Bookings

open InvalidParams Operation

/-! ## 3. Finding -/

/-- Premises with their rooms and beds. -/
def findPremises (id : PremisesId) : Operation BookingError Inventory := do
  let found ← call .store (.premises id)
  demand (.premisesNotFound id) found

/-- A booking at some premises. -/
def find (premises : PremisesId) (id : BookingId) : Operation BookingError Booking := do
  let found ← call .store (.booking id)
  demand (.bookingNotFound id) (found.filter fun booking => booking.premisesId = premises)

/-- A period out of service at some premises. -/
def findOutOfService (premises : PremisesId) (id : OutOfServiceId) :
    Operation BookingError OutOfServicePeriod := do
  let found ← call .store (.outOfService id)
  demand (.outOfServiceNotFound id) (found.filter fun period => period.premisesId = premises)

/-- Whether a booking comes before another one in a listing: by arrival date, then by identifier. -/
def listedBefore (a b : Booking) : Bool :=
  a.arrivalDate < b.arrivalDate ||
    (a.arrivalDate = b.arrivalDate && decide (a.id.text ≤ b.id.text))

/-- The bookings at some premises, earliest arrival first. -/
def list (premises : PremisesId) : Operation BookingError (List Booking) := do
  let _ ← findPremises premises
  let bookings ← call .store (.bookingsAt premises)
  pure (bookings.mergeSort listedBefore)

/-! ## 4. Holding a bed -/

/-- What a booking holds a bed with. -/
def bookingHolder (booking : Booking) : BedHolder :=
  .booking booking.id booking.arrivalDate booking.departureDate

/-- What a period holds a bed with. -/
def outOfServiceHolder (period : OutOfServicePeriod) : BedHolder :=
  .outOfService period.id period.startDate period.endDate

/-- Fails if a bed is held on one of some days. -/
def ensureBedFree (bed : BedId) (range : DateRange) : Operation BookingError Unit := do
  let bookings ← call .store (.bookingsOver range)
  failWith ((bookings.find? fun booking => booking.blocks bed range).map fun booking =>
    .bedTaken bed (bookingHolder booking))
  let periods ← call .store (.outOfServiceOver range)
  failWith ((periods.find? fun period => period.blocks bed range).map fun period =>
    .bedTaken bed (outOfServiceHolder period))

/-- Whether two dates bound no range. -/
def outOfOrder (start stop : Date) : Bool := stop ≤ start

/-- The rules on the bed of a booking: it is in the premises and in use on the arrival date. -/
def bedRules (inventory : Inventory) (bed : BedId) (arrivalDate : Date) : InvalidParams :=
  match inventory.locate? bed with
  | none => [⟨"$.bedId", "doesNotExist"⟩]
  | some (_, bed) => noteIf (!bed.inServiceOn arrivalDate) "$.arrivalDate" "afterBedEndDate"

/-- The rules that a wish for a booking breaks. -/
def creationRules (inventory : Inventory) (request : NewBooking) : InvalidParams :=
  noteIf (isEmptyTrimmed request.crn) "$.crn" "empty"
    ++ noteIf (outOfOrder request.arrivalDate request.departureDate)
      "$.departureDate" "beforeBookingArrivalDate"
    ++ bedRules inventory request.bedId request.arrivalDate

/-- The rules that a wish for a period out of service breaks. -/
def outOfServiceRules (inventory : Inventory) (request : NewOutOfServicePeriod) : InvalidParams :=
  noteIf (outOfOrder request.startDate request.endDate) "$.endDate" "beforeStartDate"
    ++ noteIf (isEmptyTrimmed request.reason) "$.reason" "empty"
    ++ noteIf (inventory.locate? request.bedId).isNone "$.bedId" "doesNotExist"

/-- Fails if a rule is broken. -/
def obey (params : InvalidParams) : Operation BookingError Unit :=
  failIf (!params.isEmpty) (.invalid params)

/-- The booking that a wish comes to. -/
def newBooking (id : BookingId) (premises : PremisesId) (request : NewBooking)
    (links : BookingLinks) (today : Date) : Booking :=
  { id, crn := trim request.crn, premisesId := premises, bedId := request.bedId
    arrivalDate := request.arrivalDate, departureDate := request.departureDate
    applicationId := links.applicationId, placementRequestId := links.placementRequestId
    createdOn := today, arrival := none, nonArrival := none, cancellation := none }

/-- Books a bed. -/
def create (premises : PremisesId) (request : NewBooking) (links : BookingLinks) (today : Date) :
    Operation BookingError Booking := do
  let inventory ← findPremises premises
  failIf (!inventory.premises.isActive) (.obstacle (.premisesArchived premises))
  obey (creationRules inventory request)
  ensureBedFree request.bedId (.spanning request.arrivalDate request.departureDate)
  let id ← issue .booking
  call (.ofWrite request.bedId) (.insertBooking (newBooking id premises request links today))

/-- Takes a bed out of service. -/
def takeOutOfService (premises : PremisesId) (request : NewOutOfServicePeriod) :
    Operation BookingError OutOfServicePeriod := do
  let inventory ← findPremises premises
  obey (outOfServiceRules inventory request)
  ensureBedFree request.bedId (.spanning request.startDate request.endDate)
  let id ← issue .outOfService
  call (.ofWrite request.bedId) (.insertOutOfService
    { id, premisesId := premises, bedId := request.bedId, startDate := request.startDate
      endDate := request.endDate, reason := request.reason, notes := request.notes
      cancelledOn := none })

/-- Cancels a period out of service. -/
def cancelOutOfService (premises : PremisesId) (id : OutOfServiceId) (today : Date) :
    Operation BookingError OutOfServicePeriod := do
  let period ← findOutOfService premises id
  if period.isCancelled then
    pure period
  else do
    let cancelled := { period with cancelledOn := some today }
    call .store (.replaceOutOfService cancelled)
    pure cancelled

/-! ## 5. Changing a booking -/

/-- What keeps an arrival or a non-arrival from being recorded. -/
def awaitingObstacle (booking : Booking) : Option BookingObstacle :=
  if booking.isCancelled then some (.cancelled booking.id)
  else if booking.hasArrival then some (.arrivalRecorded booking.id)
  else if booking.nonArrival.isSome then some (.nonArrivalRecorded booking.id)
  else none

/-- Fails unless a booking still waits for its person. -/
def ensureAwaiting (booking : Booking) : Operation BookingError Unit :=
  failWith ((awaitingObstacle booking).map .obstacle)

/-- Writes a changed booking over the one that was read. -/
def replace (current updated : Booking) : Operation BookingError Booking := do
  call (.ofChange updated) (.replaceBooking current updated)
  pure updated

/-- Records the arrival of a person; the booking takes over its dates. -/
def recordArrival (premises : PremisesId) (id : BookingId) (request : ArrivalRequest) :
    Operation BookingError Booking := do
  let current ← find premises id
  ensureAwaiting current
  obey (noteIf (outOfOrder request.arrivalDate request.expectedDepartureDate)
    "$.expectedDepartureDate" "beforeBookingArrivalDate")
  replace current
    { current with
      arrivalDate := request.arrivalDate
      departureDate := request.expectedDepartureDate
      arrival := some ⟨request.arrivalDate, request.expectedDepartureDate, request.notes⟩ }

/-- Records that a person did not arrive. -/
def recordNonArrival (premises : PremisesId) (id : BookingId) (request : NonArrivalRequest) :
    Operation BookingError Booking := do
  let current ← find premises id
  ensureAwaiting current
  obey (noteIf (isEmptyTrimmed request.reason) "$.reason" "empty")
  replace current
    { current with nonArrival := some ⟨request.date, request.reason, request.notes⟩ }

/-- Cancels a booking, for a reason that may be given by hand. -/
def cancel (premises : PremisesId) (id : BookingId) (request : CancellationRequest) :
    Operation BookingError Booking := do
  obey (noteIf request.reason.isCascaded "$.reason" "notAllowed")
  let current ← find premises id
  failIf current.hasArrival (.obstacle (.arrivalForbidsCancelling id))
  if current.isCancelled then
    pure current
  else
    replace current
      { current with cancellation := some ⟨request.date, request.reason, request.notes⟩ }

end Bookings

end Bedspace
