import Bedspace.Application.Basic
import Bedspace.Estate.Basic

/-!
# The store

The store keeps the estate, the postcode districts, bookings, periods out of service and the nodes
of all application trees. It is read and written by the operations of this file only, each of which
is one indivisible step.

* Writing a booking or a period checks the bed's other holders there and then
  (`Store.bedTaken`), and a booking for a placement request checks that the request is still open
  (`Store.requestClosed`);
* `replaceBooking` and `saveTree` write only if what is stored is still what the writer had read;
* every operation that fails leaves the store as it was.
-/

namespace Bedspace

/-- Why the store refuses. -/
inductive StoreError where
  | conflict
  | notFound
  | stale
  | unavailable (reason : String)
  deriving DecidableEq, Repr

/-- The wording of a refusal. -/
def StoreError.message : StoreError → String
  | .conflict => "record conflicts with existing state"
  | .notFound => "record not found"
  | .stale => "record changed since it was read"
  | .unavailable reason => "repository unavailable: " ++ reason

/-- All records. -/
structure Store where
  premises : Table Inventory
  districts : Table District
  bookings : Table Booking
  outOfService : Table OutOfServicePeriod
  applications : Table Application
  assessments : Table Assessment
  placementApplications : Table PlacementApplication
  placementRequests : Table PlacementRequest

namespace Store

/-- The store without records. -/
def empty : Store := ⟨∅, ∅, ∅, ∅, ∅, ∅, ∅, ∅⟩

instance : Inhabited Store := ⟨empty⟩

/-! ## 1. The estate -/

/-- The premises of a service with their rooms and beds, in the order of their identifiers. -/
def inventory (store : Store) (service : Service) : List Inventory :=
  store.premises.rows.filter fun inventory => inventory.premises.service = service

/-- Premises by their identifier. -/
def premises? (store : Store) (id : PremisesId) : Option Inventory :=
  store.premises.find? id.text

/-- A postcode district by its outcode, in any case and with blanks around it. -/
def district? (store : Store) (outcode : String) : Option District :=
  store.districts.find? (normalizeOutcode outcode)

/-- Writes premises over the ones with their identifier. -/
def putPremises (store : Store) (inventory : Inventory) : Store :=
  { store with premises := store.premises.put inventory }

/-- Writes a postcode district over the one with its outcode. -/
def putDistrict (store : Store) (district : District) : Store :=
  { store with districts := store.districts.put district }

/-! ## 2. Bookings and periods out of service -/

/-- Whether a booking other than `except` holds a bed on one of some days. -/
def bookingClash (store : Store) (bed : BedId) (range : DateRange) (except : Option BookingId) :
    Bool :=
  store.bookings.rows.any fun booking => booking.blocks bed range && some booking.id != except

/-- Whether a period keeps a bed from being used on one of some days. -/
def outOfServiceClash (store : Store) (bed : BedId) (range : DateRange) : Bool :=
  store.outOfService.rows.any fun period => period.blocks bed range

/-- Whether a bed is held on one of some days by anything but the booking `except`. -/
def bedTaken (store : Store) (bed : BedId) (range : DateRange) (except : Option BookingId) : Bool :=
  store.bookingClash bed range except || store.outOfServiceClash bed range

/-- Whether a placement request takes no booking: it is withdrawn, or has one that is live. -/
def requestClosed (store : Store) (id : PlacementRequestId) : Bool :=
  (match store.placementRequests.find? id.text with
    | some request => request.isWithdrawn
    | none => false) ||
  store.bookings.rows.any fun booking =>
    booking.placementRequestId = some id && !booking.isCancelled

/-- Adds a booking. -/
def insertBooking (store : Store) (booking : Booking) : Except StoreError (Booking × Store) :=
  if store.bookings.contains booking.id.text then .error .conflict
  else if booking.placementRequestId.any store.requestClosed then .error .stale
  else if store.bedTaken booking.bedId booking.range none then .error .conflict
  else .ok (booking, { store with bookings := store.bookings.put booking })

/-- Writes `updated` over `current`, if that is what is stored. Where the nights move, the bed has
    to be free of others for the new ones. -/
def replaceBooking (store : Store) (current updated : Booking) : Except StoreError Store :=
  match store.bookings.find? current.id.text with
  | none => .error .notFound
  | some existing =>
    if existing ≠ current ∨ updated.id ≠ current.id then .error .stale
    else if updated.blocksBed && existing.range ≠ updated.range
        && store.bedTaken updated.bedId updated.range (some updated.id) then .error .conflict
    else .ok { store with bookings := store.bookings.put updated }

/-- A booking by its identifier. -/
def booking? (store : Store) (id : BookingId) : Option Booking := store.bookings.find? id.text

/-- The bookings at some premises, in the order of their identifiers. -/
def bookingsAt (store : Store) (premises : PremisesId) : List Booking :=
  store.bookings.rows.filter fun booking => booking.premisesId = premises

/-- The bookings on one of some days, cancelled ones too, in the order of their identifiers. -/
def bookingsOver (store : Store) (range : DateRange) : List Booking :=
  store.bookings.rows.filter fun booking => booking.range.overlaps range

/-- Adds a period out of service. -/
def insertOutOfService (store : Store) (period : OutOfServicePeriod) :
    Except StoreError (OutOfServicePeriod × Store) :=
  if store.outOfService.contains period.id.text then .error .conflict
  else if store.bedTaken period.bedId period.range none then .error .conflict
  else .ok (period, { store with outOfService := store.outOfService.put period })

/-- Writes a period over the one with its identifier. -/
def replaceOutOfService (store : Store) (period : OutOfServicePeriod) : Except StoreError Store :=
  if store.outOfService.contains period.id.text then
    .ok { store with outOfService := store.outOfService.put period }
  else .error .notFound

/-- A period out of service by its identifier. -/
def outOfService? (store : Store) (id : OutOfServiceId) : Option OutOfServicePeriod :=
  store.outOfService.find? id.text

/-- The periods on one of some days, cancelled ones too, in the order of their identifiers. -/
def outOfServiceOver (store : Store) (range : DateRange) : List OutOfServicePeriod :=
  store.outOfService.rows.filter fun period => period.range.overlaps range

/-! ## 3. Application trees -/

/-- Adds an application. -/
def insertApplication (store : Store) (application : Application) :
    Except StoreError (Application × Store) :=
  if store.applications.contains application.id.text then .error .conflict
  else .ok (application, { store with applications := store.applications.put application })

/-- Turns an application in progress into a submitted one. -/
def markSubmitted (store : Store) (id : ApplicationId) (on : Date) :
    Except StoreError (Application × Store) :=
  match store.applications.find? id.text with
  | none => .error .notFound
  | some application =>
    if application.status = .inProgress then
      let submitted := { application with status := .submitted, submittedOn := some on }
      .ok (submitted, { store with applications := store.applications.put submitted })
    else .error .conflict

/-- Whether a booking belongs to an application, by itself or by its placement request, which is
    one of `requests`. -/
def bookingBelongs (id : ApplicationId) (requests : List PlacementRequest) (booking : Booking) :
    Bool :=
  booking.applicationId = some id ||
    booking.placementRequestId.any fun request => requests.any fun r => r.id = request

/-- The tree of an application, each kind of node in the order of the identifiers. -/
def tree? (store : Store) (id : ApplicationId) : Option Tree :=
  (store.applications.find? id.text).map fun application =>
    let requests := store.placementRequests.rows.filter fun r => r.applicationId = id
    { application
      assessments := store.assessments.rows.filter fun a => a.applicationId = id
      placementApplications := store.placementApplications.rows.filter fun p => p.applicationId = id
      placementRequests := requests
      bookings := store.bookings.rows.filter (bookingBelongs id requests) }

/-- Writes all nodes of a tree over the ones with their identifiers. -/
def putTree (store : Store) (tree : Tree) : Store :=
  { store with
    applications := store.applications.put tree.application
    assessments := store.assessments.putAll tree.assessments
    placementApplications := store.placementApplications.putAll tree.placementApplications
    placementRequests := store.placementRequests.putAll tree.placementRequests
    bookings := store.bookings.putAll tree.bookings }

/-- Writes `updated` over the tree `snapshot`, if that is what is stored. -/
def saveTree (store : Store) (snapshot updated : Tree) : Except StoreError Store :=
  match store.tree? snapshot.application.id with
  | none => .error .notFound
  | some stored =>
    if stored ≠ snapshot ∨ updated.application.id ≠ snapshot.application.id then .error .stale
    else .ok (store.putTree updated)

/-- The application that a node belongs to. A booking that names none itself belongs to the one of
    its placement request. -/
def ownerOf (store : Store) : Entity → Option ApplicationId
  | .application id => (store.applications.find? id.text).map Application.id
  | .assessment id => (store.assessments.find? id.text).map Assessment.applicationId
  | .placementApplication id =>
    (store.placementApplications.find? id.text).map PlacementApplication.applicationId
  | .placementRequest id =>
    (store.placementRequests.find? id.text).map PlacementRequest.applicationId
  | .booking id =>
    (store.bookings.find? id.text).bind fun booking =>
      booking.applicationId.or
        (booking.placementRequestId.bind fun request =>
          (store.placementRequests.find? request.text).map PlacementRequest.applicationId)

end Store

end Bedspace
