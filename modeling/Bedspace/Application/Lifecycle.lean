import Bedspace.Application.Cascade
import Bedspace.Booking.Lifecycle

/-!
# From application to placement

What becomes of an application, as operations over the store: it is created, submitted and
assessed, placements are asked for, decided on and booked, and any of it may be withdrawn.

* Every operation reads the whole tree of the application, changes it as a value (`Tree` functions
  of section 3) and writes it back, which fails if somebody else has changed the tree meanwhile
  (`Applications.save`);
* only submitting first marks the application, so that one of several submissions gets through;
* a withdrawn application takes no further decisions.
-/

namespace Bedspace

open Text

/-! ## 1. What can go wrong -/

/-- Why a tree is not in the state that an operation needs. -/
inductive ApplicationObstacle where
  | applicationWithdrawn (id : ApplicationId)
  | notPending (id : AssessmentId)
  | noAcceptedAssessment (id : ApplicationId)
  | alreadyDecided (id : PlacementApplicationId)
  | requestWithdrawn (id : PlacementRequestId)
  | alreadyBooked (id : PlacementRequestId) (booking : BookingId)
  | changedMeanwhile (id : ApplicationId)
  deriving DecidableEq, Repr

/-- The wording of an obstacle. -/
def ApplicationObstacle.message : ApplicationObstacle → String
  | .applicationWithdrawn id => "application " ++ id.text ++ " has been withdrawn"
  | .notPending id => "assessment " ++ id.text ++ " is no longer pending"
  | .noAcceptedAssessment id => "application " ++ id.text ++ " has no accepted assessment"
  | .alreadyDecided id =>
    "placement application " ++ id.text ++ " has already been decided or withdrawn"
  | .requestWithdrawn id => "placement request " ++ id.text ++ " has been withdrawn"
  | .alreadyBooked id booking =>
    "placement request " ++ id.text ++ " is already booked as " ++ booking.text
  | .changedMeanwhile id =>
    "application " ++ id.text ++ " changed while being updated; reload and try again"

/-- Why an operation on applications fails. -/
inductive ApplicationError where
  | invalid (params : InvalidParams)
  | notFound (entity : Entity)
  | alreadySubmitted (id : ApplicationId)
  | obstacle (obstacle : ApplicationObstacle)
  | cascade (error : CascadeError)
  | booking (error : BookingError)
  | store (error : StoreError)
  deriving DecidableEq

/-- The wording of a failure. -/
def ApplicationError.message : ApplicationError → String
  | .invalid params => params.message
  | .notFound entity => "no " ++ entity.text ++ " could be found"
  | .alreadySubmitted id =>
    "application " ++ id.text ++ " has already been submitted or withdrawn"
  | .obstacle reason => reason.message
  | .cascade error => error.message
  | .booking error => error.message
  | .store error => error.message

/-- What an error of the store means to the writer of a tree. -/
def ApplicationError.ofSave (id : ApplicationId) : StoreError → ApplicationError
  | .stale => .obstacle (.changedMeanwhile id)
  | error => .store error

/-- What an error of the store means to someone who submits an application. -/
def ApplicationError.ofSubmission (id : ApplicationId) : StoreError → ApplicationError
  | .notFound => .notFound (.application id)
  | .conflict => .alreadySubmitted id
  | error => .store error

/-! ## 2. What is asked for and shown -/

/-- The wish to withdraw something. -/
structure WithdrawalRequest where
  reason : WithdrawalReason
  notes : Option String
  deriving DecidableEq

/-- A node that may still be withdrawn, with the nights it covers if there are any. -/
structure Withdrawable where
  target : WithdrawalTarget
  startDate : Option Date
  endDate : Option Date
  deriving DecidableEq

/-! ## 3. Trees as values -/

namespace Tree

/-- A new assessment of an application. -/
def newAssessment (id : AssessmentId) (application : ApplicationId) (today : Date) : Assessment :=
  { id, applicationId := application, allocatedOn := today, decision := none
    reallocatedOn := none, withdrawn := false }

/-- A new placement request of an application. -/
def newRequest (id : PlacementRequestId) (application : ApplicationId)
    (placement : Option PlacementApplicationId) (dates : PlacementDates) (today : Date) :
    PlacementRequest :=
  { id, applicationId := application, placementApplicationId := placement
    expectedArrival := dates.expectedArrival, durationDays := dates.durationDays
    createdOn := today, withdrawal := none }

/-- Changes the first assessment with an identifier. -/
def updateAssessment (tree : Tree) (id : AssessmentId) (f : Assessment → Assessment) : Tree :=
  { tree with assessments := updateFirst (fun a => a.id = id) f tree.assessments }

/-- Decides the first assessment with an identifier. -/
def decideAssessment (tree : Tree) (id : AssessmentId) (decision : Decision) : Tree :=
  tree.updateAssessment id fun a => { a with decision := some decision }

/-- Decides the first placement application with an identifier. -/
def decidePlacement (tree : Tree) (id : PlacementApplicationId) (decision : Decision) : Tree :=
  { tree with
    placementApplications := updateFirst (fun p => p.id = id)
      (fun p => { p with decision := some decision }) tree.placementApplications }

/-- Adds an assessment after the others. -/
def addAssessment (tree : Tree) (assessment : Assessment) : Tree :=
  { tree with assessments := tree.assessments ++ [assessment] }

/-- Adds a placement request after the others. -/
def addRequest (tree : Tree) (request : PlacementRequest) : Tree :=
  { tree with placementRequests := tree.placementRequests ++ [request] }

/-- Adds a placement application after the others. -/
def addPlacement (tree : Tree) (placement : PlacementApplication) : Tree :=
  { tree with placementApplications := tree.placementApplications ++ [placement] }

/-- The end of the nights of a placement request, if the calendar has it. -/
def requestEnd? (request : PlacementRequest) : Option Date :=
  (DateRange.ofDuration? request.expectedArrival request.durationDays).map DateRange.stop

/-- The nodes of a tree that may still be withdrawn: the application, placement applications,
    placement requests and bookings, each in the order of the tree. -/
def withdrawables (tree : Tree) : List Withdrawable :=
  (if tree.application.isWithdrawn then []
    else [⟨.application tree.application.id, none, none⟩])
  ++ (tree.placementApplications.filter fun p => !p.isWithdrawn).map
    (fun p => ⟨.placementApplication p.id, none, none⟩)
  ++ (tree.placementRequests.filter fun r => !r.isWithdrawn).map
    (fun r => ⟨.placementRequest r.id, some r.expectedArrival, requestEnd? r⟩)
  ++ (tree.bookings.filter fun b => !b.isCancelled && !b.hasArrival).map
    (fun b => ⟨.booking b.id, some b.arrivalDate, some b.departureDate⟩)

end Tree

namespace Applications

open InvalidParams Operation

/-! ## 4. Reading and writing trees -/

/-- The tree of an application. -/
def findTree (id : ApplicationId) : Operation ApplicationError Tree := do
  let found ← call .store (.tree id)
  demand (.notFound (.application id)) found

/-- The tree that a node belongs to. -/
def findTreeOf (entity : Entity) : Operation ApplicationError Tree := do
  let owner ← call .store (.ownerOf entity)
  let id ← demand (.notFound entity) owner
  findTree id

/-- Writes a changed tree over the one that was read. -/
def save (snapshot updated : Tree) : Operation ApplicationError Unit :=
  call (.ofSave snapshot.application.id) (.saveTree snapshot updated)

/-- Fails if a rule is broken. -/
def obey (params : InvalidParams) : Operation ApplicationError Unit :=
  failIf (!params.isEmpty) (.invalid params)

/-- Fails if the application of a tree is withdrawn. -/
def ensureLive (tree : Tree) : Operation ApplicationError Unit :=
  failIf tree.application.isWithdrawn (.obstacle (.applicationWithdrawn tree.application.id))

/-- Fails if the nights of a placement are none. -/
def ensureNights (dates : PlacementDates) (property : String) : Operation ApplicationError Unit :=
  obey (noteIf (dates.durationDays = 0) property "mustBePositive")

/-- The tree of an assessment that still waits for its assessor. -/
def findPending (id : AssessmentId) : Operation ApplicationError Tree := do
  let tree ← findTreeOf (.assessment id)
  ensureLive tree
  let assessment ← demand (.notFound (.assessment id))
    (tree.assessments.find? fun a => a.id = id)
  failIf (!assessment.isPending) (.obstacle (.notPending id))
  pure tree

/-! ## 5. Applications and their assessment -/

/-- Creates an application for a person. -/
def create (crn : String) (today : Date) : Operation ApplicationError Application := do
  obey (noteIf (isEmptyTrimmed crn) "$.crn" "empty")
  let id ← issue .application
  call .store (.insertApplication
    { id, crn := trim crn, status := .inProgress, createdOn := today, submittedOn := none
      withdrawal := none })

/-- Submits an application and allocates its first assessment. -/
def submit (id : ApplicationId) (today : Date) : Operation ApplicationError Tree := do
  let _ ← call (.ofSubmission id) (.markSubmitted id today)
  let snapshot ← findTree id
  let assessmentId ← issue .assessment
  let tree := snapshot.addAssessment (Tree.newAssessment assessmentId id today)
  save snapshot tree
  pure tree

/-- Accepts a pending assessment and raises the first placement request. -/
def acceptAssessment (id : AssessmentId) (dates : PlacementDates) (today : Date) :
    Operation ApplicationError Tree := do
  ensureNights dates "$.durationDays"
  let snapshot ← findPending id
  let requestId ← issue .placementRequest
  let tree := (snapshot.decideAssessment id .accepted).addRequest
    (Tree.newRequest requestId snapshot.application.id none dates today)
  save snapshot tree
  pure tree

/-- Rejects a pending assessment. -/
def rejectAssessment (id : AssessmentId) : Operation ApplicationError Tree := do
  let snapshot ← findPending id
  let tree := snapshot.decideAssessment id .rejected
  save snapshot tree
  pure tree

/-- Hands a pending assessment to another assessor. The old one stays, marked as reallocated. -/
def reallocateAssessment (id : AssessmentId) (today : Date) : Operation ApplicationError Tree := do
  let snapshot ← findPending id
  let newId ← issue .assessment
  let tree := (snapshot.updateAssessment id fun a => { a with reallocatedOn := some today })
    |>.addAssessment (Tree.newAssessment newId snapshot.application.id today)
  save snapshot tree
  pure tree

/-! ## 6. Placements -/

/-- Asks for a further placement, once an assessment is accepted. -/
def createPlacement (application : ApplicationId) (today : Date) :
    Operation ApplicationError PlacementApplication := do
  let snapshot ← findTree application
  ensureLive snapshot
  failIf snapshot.acceptedAssessment?.isNone
    (.obstacle (.noAcceptedAssessment snapshot.application.id))
  let id ← issue .placementApplication
  let placement : PlacementApplication :=
    { id, applicationId := snapshot.application.id, createdOn := today, decision := none
      withdrawal := none }
  save snapshot (snapshot.addPlacement placement)
  pure placement

/-- A tree in which a placement application is decided; a yes raises a placement request. -/
def decidedPlacement (snapshot : Tree) (id : PlacementApplicationId)
    (decision : PlacementDecision) (today : Date) : Operation ApplicationError Tree :=
  match decision with
  | .rejected => pure (snapshot.decidePlacement id .rejected)
  | .accepted dates => do
    ensureNights dates "$.placementDates.durationDays"
    let requestId ← issue .placementRequest
    pure ((snapshot.decidePlacement id .accepted).addRequest
      (Tree.newRequest requestId snapshot.application.id (some id) dates today))

/-- Decides on a placement application. -/
def decidePlacement (id : PlacementApplicationId) (decision : PlacementDecision) (today : Date) :
    Operation ApplicationError Tree := do
  let snapshot ← findTreeOf (.placementApplication id)
  ensureLive snapshot
  let placement ← demand (.notFound (.placementApplication id))
    (snapshot.placementApplications.find? fun p => p.id = id)
  failIf (placement.isWithdrawn || placement.decision.isSome) (.obstacle (.alreadyDecided id))
  let tree ← decidedPlacement snapshot id decision today
  save snapshot tree
  pure tree

/-- Books a bed for a placement request that has no live booking. -/
def bookRequest (id : PlacementRequestId) (request : PlacementBooking) (today : Date) :
    Operation ApplicationError Booking := do
  let tree ← findTreeOf (.placementRequest id)
  ensureLive tree
  let placement ← demand (.notFound (.placementRequest id))
    (tree.placementRequests.find? fun r => r.id = id)
  failIf placement.isWithdrawn (.obstacle (.requestWithdrawn id))
  failWith ((tree.liveBooking? id).map fun booking => .obstacle (.alreadyBooked id booking.id))
  ExceptT.adapt .booking (Bookings.create request.premisesId
    ⟨tree.application.crn, request.bedId, request.arrivalDate, request.departureDate⟩
    ⟨some tree.application.id, some id⟩ today)

/-! ## 7. Withdrawing -/

/-- The nodes under an application that may still be withdrawn. -/
def withdrawables (id : ApplicationId) : Operation ApplicationError (List Withdrawable) := do
  let tree ← findTree id
  pure tree.withdrawables

/-- Withdraws a node and what is below it, for a reason that may be given by hand. Nothing is
    written if nothing was withdrawn. -/
def withdraw (target : WithdrawalTarget) (request : WithdrawalRequest) (today : Date) :
    Operation ApplicationError WithdrawalOutcome := do
  obey (noteIf request.reason.isCascaded "$.reason" "notAllowed")
  let snapshot ← findTreeOf target.entity
  match snapshot.withdraw target request.reason ⟨today, request.notes⟩ with
  | .error error => throw (.cascade error)
  | .ok (outcome, tree) =>
    if outcome.changed then save snapshot tree
    pure outcome

end Applications

end Bedspace
