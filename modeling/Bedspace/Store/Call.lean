import Bedspace.Store.Basic

/-!
# Calls on the store

A `Call` is one indivisible step on the store as a value: what is asked and with which arguments.
Its type tells the type of its answer (`Call.Answer`), and `Call.perform` carries it out.

* Each call belongs to a `Method`; a method may be out of order (`Faults`), and then its calls fail
  before they reach the store;
* `perform_error`: a call that fails leaves the store as it was.
-/

namespace Bedspace

/-- The kinds of call. -/
inductive Method where
  | inventory
  | premises
  | district
  | putPremises
  | putDistrict
  | insertBooking
  | replaceBooking
  | booking
  | bookingsAt
  | bookingsOver
  | insertOutOfService
  | replaceOutOfService
  | outOfService
  | outOfServiceOver
  | insertApplication
  | markSubmitted
  | tree
  | saveTree
  | ownerOf
  deriving DecidableEq, Repr

/-- One step on the store. -/
inductive Call where
  | inventory (service : Service)
  | premises (id : PremisesId)
  | district (outcode : String)
  | putPremises (inventory : Inventory)
  | putDistrict (district : District)
  | insertBooking (booking : Booking)
  | replaceBooking (current updated : Booking)
  | booking (id : BookingId)
  | bookingsAt (premises : PremisesId)
  | bookingsOver (range : DateRange)
  | insertOutOfService (period : OutOfServicePeriod)
  | replaceOutOfService (period : OutOfServicePeriod)
  | outOfService (id : OutOfServiceId)
  | outOfServiceOver (range : DateRange)
  | insertApplication (application : Application)
  | markSubmitted (id : ApplicationId) (on : Date)
  | tree (id : ApplicationId)
  | saveTree (snapshot updated : Tree)
  | ownerOf (entity : Entity)

namespace Call

/-- The type of the answer to a call. -/
@[reducible] def Answer : Call → Type
  | inventory _ => List Inventory
  | premises _ => Option Inventory
  | district _ => Option District
  | putPremises _ => Unit
  | putDistrict _ => Unit
  | insertBooking _ => Booking
  | replaceBooking _ _ => Unit
  | booking _ => Option Booking
  | bookingsAt _ => List Booking
  | bookingsOver _ => List Booking
  | insertOutOfService _ => OutOfServicePeriod
  | replaceOutOfService _ => Unit
  | outOfService _ => Option OutOfServicePeriod
  | outOfServiceOver _ => List OutOfServicePeriod
  | insertApplication _ => Application
  | markSubmitted _ _ => Application
  | tree _ => Option Tree
  | saveTree _ _ => Unit
  | ownerOf _ => Option ApplicationId

/-- The method of a call. -/
def method : Call → Method
  | inventory _ => .inventory
  | premises _ => .premises
  | district _ => .district
  | putPremises _ => .putPremises
  | putDistrict _ => .putDistrict
  | insertBooking _ => .insertBooking
  | replaceBooking _ _ => .replaceBooking
  | booking _ => .booking
  | bookingsAt _ => .bookingsAt
  | bookingsOver _ => .bookingsOver
  | insertOutOfService _ => .insertOutOfService
  | replaceOutOfService _ => .replaceOutOfService
  | outOfService _ => .outOfService
  | outOfServiceOver _ => .outOfServiceOver
  | insertApplication _ => .insertApplication
  | markSubmitted _ _ => .markSubmitted
  | tree _ => .tree
  | saveTree _ _ => .saveTree
  | ownerOf _ => .ownerOf

/-- The answer and the store after a step that may fail. -/
def settle {α : Type} (store : Store) : Except StoreError (α × Store) → Except StoreError α × Store
  | .ok (a, store') => (.ok a, store')
  | .error e => (.error e, store)

/-- The answer and the store after a step that only succeeds or fails. -/
def settleUnit (store : Store) (result : Except StoreError Store) :
    Except StoreError Unit × Store :=
  settle store (result.map fun store' => ((), store'))

/-- The answer to a call and the store after it. -/
def perform (store : Store) : (call : Call) → Except StoreError call.Answer × Store
  | .inventory service => (.ok (store.inventory service), store)
  | .premises id => (.ok (store.premises? id), store)
  | .district outcode => (.ok (store.district? outcode), store)
  | .putPremises record => (.ok (), store.putPremises record)
  | .putDistrict record => (.ok (), store.putDistrict record)
  | .insertBooking record => settle store (store.insertBooking record)
  | .replaceBooking current updated => settleUnit store (store.replaceBooking current updated)
  | .booking id => (.ok (store.booking? id), store)
  | .bookingsAt id => (.ok (store.bookingsAt id), store)
  | .bookingsOver range => (.ok (store.bookingsOver range), store)
  | .insertOutOfService period => settle store (store.insertOutOfService period)
  | .replaceOutOfService period => settleUnit store (store.replaceOutOfService period)
  | .outOfService id => (.ok (store.outOfService? id), store)
  | .outOfServiceOver range => (.ok (store.outOfServiceOver range), store)
  | .insertApplication record => settle store (store.insertApplication record)
  | .markSubmitted id on => settle store (store.markSubmitted id on)
  | .tree id => (.ok (store.tree? id), store)
  | .saveTree snapshot updated => settleUnit store (store.saveTree snapshot updated)
  | .ownerOf entity => (.ok (store.ownerOf entity), store)

theorem settle_error {α : Type} {store : Store} {result : Except StoreError (α × Store)}
    {e : StoreError} (h : (settle store result).1 = .error e) :
    (settle store result).2 = store := by
  cases result with
  | error _ => rfl
  | ok _ => cases h

theorem settleUnit_error {store : Store} {result : Except StoreError Store} {e : StoreError}
    (h : (settleUnit store result).1 = .error e) : (settleUnit store result).2 = store :=
  settle_error h

/-- **A call that fails leaves the store as it was.** -/
theorem perform_error {store : Store} {call : Call} {e : StoreError}
    (h : (perform store call).1 = .error e) : (perform store call).2 = store := by
  cases call with
  | putPremises _ => cases h
  | putDistrict _ => cases h
  | insertBooking _ => exact settle_error h
  | insertOutOfService _ => exact settle_error h
  | insertApplication _ => exact settle_error h
  | markSubmitted _ _ => exact settle_error h
  | replaceBooking _ _ => exact settleUnit_error h
  | replaceOutOfService _ => exact settleUnit_error h
  | saveTree _ _ => exact settleUnit_error h
  | _ => rfl

end Call

/-- For each method, the error its calls fail with, if it is out of order. -/
abbrev Faults := Method → Option StoreError

/-- No method is out of order. -/
def Faults.none : Faults := fun _ => .none

end Bedspace
