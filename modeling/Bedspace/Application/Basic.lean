import Bedspace.Booking.Basic

/-!
# Applications and what hangs on them

An application is assessed; once an assessment is accepted, a placement request is raised, and
further ones by way of placement applications; a placement request is met by a booking. All of
that is the `Tree` of the application.

* `Entity` names any node of a tree, `WithdrawalTarget` one that can be withdrawn by itself;
* `Tree.contains` says whether a node belongs to a tree.
-/

namespace Bedspace

/-! ## 1. The nodes -/

inductive ApplicationStatus where
  | inProgress
  | submitted
  | withdrawn
  deriving DecidableEq, Repr

/-- The word for a status. -/
def ApplicationStatus.label : ApplicationStatus → String
  | .inProgress => "in_progress"
  | .submitted => "submitted"
  | .withdrawn => "withdrawn"

/-- The wish of a person to be accommodated. -/
structure Application where
  id : ApplicationId
  crn : String
  status : ApplicationStatus
  createdOn : Date
  submittedOn : Option Date
  withdrawal : Option Withdrawal
  deriving DecidableEq

instance : Keyed Application := ⟨fun application => application.id.text⟩

def Application.isWithdrawn (application : Application) : Bool := application.status = .withdrawn

/-- A yes or a no, to an application or to a placement application. -/
inductive Decision where
  | accepted
  | rejected
  deriving DecidableEq, Repr

/-- The word for a decision. -/
def Decision.label : Decision → String
  | .accepted => "accepted"
  | .rejected => "rejected"

/-- The decision with exactly this word. -/
def Decision.ofLabel? : String → Option Decision
  | "accepted" => some .accepted
  | "rejected" => some .rejected
  | _ => none

/-- The task of one assessor to decide on an application. -/
structure Assessment where
  id : AssessmentId
  applicationId : ApplicationId
  allocatedOn : Date
  decision : Option Decision
  reallocatedOn : Option Date
  withdrawn : Bool
  deriving DecidableEq

instance : Keyed Assessment := ⟨fun assessment => assessment.id.text⟩

/-- Whether an assessment still waits for its assessor. -/
def Assessment.isPending (assessment : Assessment) : Bool :=
  assessment.decision.isNone && assessment.reallocatedOn.isNone && !assessment.withdrawn

/-- The wish for a further placement. -/
structure PlacementApplication where
  id : PlacementApplicationId
  applicationId : ApplicationId
  createdOn : Date
  decision : Option Decision
  withdrawal : Option Withdrawal
  deriving DecidableEq

instance : Keyed PlacementApplication := ⟨fun placement => placement.id.text⟩

def PlacementApplication.isWithdrawn (placement : PlacementApplication) : Bool :=
  placement.withdrawal.isSome

/-- The order to find a bed for some nights. The first one comes from the assessment and names no
    placement application. -/
structure PlacementRequest where
  id : PlacementRequestId
  applicationId : ApplicationId
  placementApplicationId : Option PlacementApplicationId
  expectedArrival : Date
  durationDays : Nat
  createdOn : Date
  withdrawal : Option Withdrawal
  deriving DecidableEq

instance : Keyed PlacementRequest := ⟨fun request => request.id.text⟩

def PlacementRequest.isWithdrawn (request : PlacementRequest) : Bool := request.withdrawal.isSome

/-! ## 2. Names of nodes -/

/-- Any node of a tree. -/
inductive Entity where
  | application (id : ApplicationId)
  | assessment (id : AssessmentId)
  | placementApplication (id : PlacementApplicationId)
  | placementRequest (id : PlacementRequestId)
  | booking (id : BookingId)
  deriving DecidableEq, Repr

namespace Entity

/-- The word for the kind of a node. -/
def kindLabel : Entity → String
  | .application _ => "application"
  | .assessment _ => "assessment"
  | .placementApplication _ => "placement_application"
  | .placementRequest _ => "placement_request"
  | .booking _ => "booking"

/-- The text of the identifier of a node. -/
def idText : Entity → String
  | .application id => id.text
  | .assessment id => id.text
  | .placementApplication id => id.text
  | .placementRequest id => id.text
  | .booking id => id.text

/-- A node as it is spoken of in messages. -/
def text : Entity → String
  | .application id => "application " ++ id.text
  | .assessment id => "assessment " ++ id.text
  | .placementApplication id => "placement application " ++ id.text
  | .placementRequest id => "placement request " ++ id.text
  | .booking id => "booking " ++ id.text

end Entity

/-- A node that can be withdrawn by itself. Assessments go with their application only. -/
inductive WithdrawalTarget where
  | application (id : ApplicationId)
  | placementApplication (id : PlacementApplicationId)
  | placementRequest (id : PlacementRequestId)
  | booking (id : BookingId)
  deriving DecidableEq, Repr

/-- The node that is to be withdrawn. -/
def WithdrawalTarget.entity : WithdrawalTarget → Entity
  | .application id => .application id
  | .placementApplication id => .placementApplication id
  | .placementRequest id => .placementRequest id
  | .booking id => .booking id

/-! ## 3. Trees -/

/-- An application with everything that hangs on it. -/
structure Tree where
  application : Application
  assessments : List Assessment
  placementApplications : List PlacementApplication
  placementRequests : List PlacementRequest
  bookings : List Booking
  deriving DecidableEq

namespace Tree

/-- The first assessment that was accepted. -/
def acceptedAssessment? (tree : Tree) : Option Assessment :=
  tree.assessments.find? fun assessment => assessment.decision = some .accepted

/-- The first booking of a placement request that is not cancelled. -/
def liveBooking? (tree : Tree) (request : PlacementRequestId) : Option Booking :=
  tree.bookings.find? fun booking =>
    booking.placementRequestId = some request && !booking.isCancelled

/-- Whether a node belongs to a tree. -/
def contains (tree : Tree) : Entity → Bool
  | .application id => tree.application.id = id
  | .assessment id => tree.assessments.any fun a => a.id = id
  | .placementApplication id => tree.placementApplications.any fun p => p.id = id
  | .placementRequest id => tree.placementRequests.any fun r => r.id = id
  | .booking id => tree.bookings.any fun b => b.id = id

end Tree

/-! ## 4. What is asked for -/

/-- The nights for which a placement is wanted. -/
structure PlacementDates where
  expectedArrival : Date
  durationDays : Nat
  deriving DecidableEq

/-- A decision on a placement application; a yes comes with the nights. -/
inductive PlacementDecision where
  | accepted (dates : PlacementDates)
  | rejected
  deriving DecidableEq

/-- The bed and the nights chosen for a placement request. -/
structure PlacementBooking where
  premisesId : PremisesId
  bedId : BedId
  arrivalDate : Date
  departureDate : Date
  deriving DecidableEq

end Bedspace
