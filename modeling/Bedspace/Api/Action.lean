import Bedspace.Api.Problem
import Bedspace.Estate.Listing
import Bedspace.Json.Application
import Bedspace.Json.Search
import Bedspace.Paging
import Bedspace.Search.Find
import Bedspace.Settings.Basic

/-!
# What can be asked for

Every request that the service answers is one `Action`. Carrying it out is one operation over the
store; the result is a `Reply`, and a failure is the error of the part that failed.

* `Action.perform` gives the operation of an action, on a day and with certain settings;
* bookings made by an action of their own carry no links: only `Action.bookRequest` makes bookings
  that belong to a tree.
-/

namespace Bedspace

/-! ## 1. Actions, replies and errors -/

/-- A request by its meaning. -/
inductive Action where
  | listPremises (service : Option Service) (criteria : PageCriteria)
  | showPremises (id : PremisesId)
  | listBookings (premises : PremisesId) (criteria : PageCriteria)
  | createBooking (premises : PremisesId) (request : NewBooking)
  | showBooking (premises : PremisesId) (id : BookingId)
  | recordArrival (premises : PremisesId) (id : BookingId) (request : ArrivalRequest)
  | recordNonArrival (premises : PremisesId) (id : BookingId) (request : NonArrivalRequest)
  | cancelBooking (premises : PremisesId) (id : BookingId) (request : CancellationRequest)
  | takeOutOfService (premises : PremisesId) (request : NewOutOfServicePeriod)
  | cancelOutOfService (premises : PremisesId) (id : OutOfServiceId)
  | searchBeds (search : BedSearch)
  | createApplication (crn : String)
  | showApplication (id : ApplicationId)
  | submit (id : ApplicationId)
  | listWithdrawables (id : ApplicationId)
  | withdraw (target : WithdrawalTarget) (request : WithdrawalRequest)
  | acceptAssessment (id : AssessmentId) (dates : PlacementDates)
  | rejectAssessment (id : AssessmentId)
  | reallocateAssessment (id : AssessmentId)
  | createPlacement (application : ApplicationId)
  | decidePlacement (id : PlacementApplicationId) (decision : PlacementDecision)
  | bookRequest (id : PlacementRequestId) (request : PlacementBooking)

/-- The result of an action. -/
inductive Reply where
  | premisesPage (page : Page PremisesSummary)
  | premises (summary : PremisesSummary)
  | bookingsPage (page : Page Booking)
  | booking (booking : Booking)
  | outOfService (period : OutOfServicePeriod)
  | results (results : BedSearchResults)
  | application (application : Application)
  | tree (tree : Tree)
  | withdrawables (nodes : List Withdrawable)
  | outcome (outcome : WithdrawalOutcome)
  | placement (placement : PlacementApplication)

/-- Why an action fails. -/
inductive ActionError where
  | noPremises (id : PremisesId)
  | store (error : StoreError)
  | booking (error : BookingError)
  | search (error : BedSearchError)
  | application (error : ApplicationError)
  deriving DecidableEq

/-- Whether an action makes something new. -/
def Action.creates : Action → Bool
  | createBooking _ _ => true
  | takeOutOfService _ _ => true
  | createApplication _ => true
  | createPlacement _ => true
  | bookRequest _ _ => true
  | _ => false

/-- A result as JSON. -/
def Reply.json : Reply → Json
  | premisesPage page => .listOf PremisesSummary.json page.items
  | premises summary => summary.json
  | bookingsPage page => .listOf Booking.view page.items
  | booking made => made.view
  | outOfService period => period.json
  | results found => found.json
  | application made => made.json
  | tree whole => whole.json
  | withdrawables nodes => .listOf Withdrawable.json nodes
  | outcome reached => reached.json
  | placement made => made.json

/-- The lines that tell of a result, beside the result itself. -/
def Reply.headers : Reply → List (String × String)
  | premisesPage page => page.headers
  | bookingsPage page => page.headers
  | _ => []

/-- The problem of a failed action. -/
def ActionError.problem : ActionError → Problem
  | noPremises id => .plain .notFound ("No premises with an id of " ++ id.text ++ " could be found")
  | store error => error.problem
  | booking error => error.problem
  | search error => error.problem
  | application error => error.problem

/-- What an error of the store means to someone who asks for premises. -/
def ActionError.ofShowPremises (id : PremisesId) : StoreError → ActionError
  | .notFound => .noPremises id
  | error => .store error

/-! ## 2. Carrying out -/

namespace Action

/-- The reply that an operation leads to, with its error among the errors of actions. -/
def replying {ε α : Type} (wrap : ε → ActionError) (reply : α → Reply) (op : Operation ε α) :
    Operation ActionError Reply :=
  ExceptT.adapt wrap (reply <$> op)

/-- The operation of an action. -/
def perform (settings : SearchSettings) (today : Date) : Action → Operation ActionError Reply
  | listPremises service criteria =>
    replying .store (fun found => .premisesPage (paginate found criteria settings.defaultPageSize))
      (Premises.list service)
  | showPremises id => replying (.ofShowPremises id) .premises (Premises.find id)
  | listBookings premises criteria =>
    replying .booking
      (fun found => .bookingsPage (paginate found criteria settings.defaultPageSize))
      (Bookings.list premises)
  | createBooking premises request =>
    replying .booking .booking (Bookings.create premises request .none today)
  | showBooking premises id => replying .booking .booking (Bookings.find premises id)
  | recordArrival premises id request =>
    replying .booking .booking (Bookings.recordArrival premises id request)
  | recordNonArrival premises id request =>
    replying .booking .booking (Bookings.recordNonArrival premises id request)
  | cancelBooking premises id request =>
    replying .booking .booking (Bookings.cancel premises id request)
  | takeOutOfService premises request =>
    replying .booking .outOfService (Bookings.takeOutOfService premises request)
  | cancelOutOfService premises id =>
    replying .booking .outOfService (Bookings.cancelOutOfService premises id today)
  | searchBeds search => replying .search .results (search.find settings.maxDistanceMiles)
  | createApplication crn =>
    replying .application .application (Applications.create crn today)
  | showApplication id => replying .application .tree (Applications.findTree id)
  | submit id => replying .application .tree (Applications.submit id today)
  | listWithdrawables id =>
    replying .application .withdrawables (Applications.withdrawables id)
  | withdraw target request =>
    replying .application .outcome (Applications.withdraw target request today)
  | acceptAssessment id dates =>
    replying .application .tree (Applications.acceptAssessment id dates today)
  | rejectAssessment id => replying .application .tree (Applications.rejectAssessment id)
  | reallocateAssessment id =>
    replying .application .tree (Applications.reallocateAssessment id today)
  | createPlacement application =>
    replying .application .placement (Applications.createPlacement application today)
  | decidePlacement id decision =>
    replying .application .tree (Applications.decidePlacement id decision today)
  | bookRequest id request =>
    replying .application .booking (Applications.bookRequest id request today)

end Action

end Bedspace
