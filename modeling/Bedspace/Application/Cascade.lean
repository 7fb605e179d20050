import Bedspace.Application.Basic

/-!
# Withdrawing a node of a tree with everything below it

A withdrawal starts at one node and goes down: from the application to its assessments, placement
applications, first placement requests and bookings of its own; from a placement application to the
placement requests raised for it; from a placement request to its bookings. What is below carries a
reason of its own for each step.

* A node that was withdrawn or cancelled before, a reallocated assessment and a booking with an
  arrival are passed over, and nothing below them is looked at;
* `Tree.withdraw` lists what was withdrawn and what was passed over, in the order in which the
  nodes are reached, and gives the tree that results;
* it fails, with the tree as it was, if the node is not in the tree or is a booking with an arrival.
-/

namespace Bedspace

/-! ## 1. Outcomes -/

/-- Why a node was passed over. -/
inductive SkipReason where
  | arrivalRecorded
  | alreadyWithdrawn
  | alreadyCancelled
  | reallocated
  deriving DecidableEq, Repr

/-- The word for passing over. -/
def SkipReason.label : SkipReason → String
  | .arrivalRecorded => "arrival_recorded"
  | .alreadyWithdrawn => "already_withdrawn"
  | .alreadyCancelled => "already_cancelled"
  | .reallocated => "reallocated"

/-- A node that was passed over. -/
structure SkippedEntity where
  entity : Entity
  reason : SkipReason
  deriving DecidableEq, Repr

/-- What a withdrawal came to. -/
structure WithdrawalOutcome where
  root : Entity
  withdrawn : List Entity
  skipped : List SkippedEntity
  deriving DecidableEq, Repr

/-- Whether anything was withdrawn. -/
def WithdrawalOutcome.changed (outcome : WithdrawalOutcome) : Bool := !outcome.withdrawn.isEmpty

/-- Why a withdrawal fails. -/
inductive CascadeError where
  | arrivalRecorded (booking : BookingId)
  | notInTree (entity : Entity)
  deriving DecidableEq, Repr

/-- The wording of a failure. -/
def CascadeError.message : CascadeError → String
  | .arrivalRecorded booking =>
    "booking " ++ booking.text ++ " has an arrival recorded and cannot be withdrawn"
  | .notInTree entity => entity.text ++ " does not belong to this application"

/-! ## 2. Going down -/

/-- What is the same for all nodes of a withdrawal. -/
structure WithdrawalNote where
  withdrawnOn : Date
  notes : Option String
  deriving DecidableEq

/-- The withdrawal of a node for a reason. -/
def WithdrawalNote.withdrawal (note : WithdrawalNote) (reason : WithdrawalReason) : Withdrawal :=
  ⟨reason, note.withdrawnOn, note.notes⟩

/-- The cancellation of a booking for a reason. -/
def WithdrawalNote.cancellation (note : WithdrawalNote) (reason : WithdrawalReason) :
    Cancellation :=
  ⟨note.withdrawnOn, reason, note.notes⟩

/-- A withdrawal under way: the tree as it is by now and the nodes reached so far. -/
structure Cascade where
  tree : Tree
  withdrawn : List Entity
  skipped : List SkippedEntity
  deriving DecidableEq

/-- Changes the first member that satisfies a condition. -/
def updateFirst {α : Type} (p : α → Bool) (f : α → α) : List α → List α
  | [] => []
  | a :: as => if p a then f a :: as else a :: updateFirst p f as

namespace Cascade

/-- Notes a node that was passed over. -/
def skip (cascade : Cascade) (entity : Entity) (reason : SkipReason) : Cascade :=
  { cascade with skipped := cascade.skipped ++ [⟨entity, reason⟩] }

/-- Notes a node that was withdrawn, with the tree after that. -/
def mark (cascade : Cascade) (entity : Entity) (tree : Tree) : Cascade :=
  { cascade with tree, withdrawn := cascade.withdrawn ++ [entity] }

/-- Cancels a booking. -/
def booking (note : WithdrawalNote) (reason : WithdrawalReason) (cascade : Cascade)
    (id : BookingId) : Cascade :=
  let tree := cascade.tree
  match tree.bookings.find? fun booking => booking.id = id with
  | none => cascade
  | some booking =>
    if booking.hasArrival then cascade.skip (.booking id) .arrivalRecorded
    else if booking.isCancelled then cascade.skip (.booking id) .alreadyCancelled
    else
      cascade.mark (.booking id)
        { tree with
          bookings := updateFirst (fun booking => booking.id = id)
            (fun booking => { booking with cancellation := some (note.cancellation reason) })
            tree.bookings }

/-- Withdraws a placement request, then its bookings. -/
def placementRequest (note : WithdrawalNote) (reason : WithdrawalReason) (cascade : Cascade)
    (id : PlacementRequestId) : Cascade :=
  let tree := cascade.tree
  match tree.placementRequests.find? fun request => request.id = id with
  | none => cascade
  | some request =>
    if request.isWithdrawn then cascade.skip (.placementRequest id) .alreadyWithdrawn
    else
      let bookings := tree.bookings.filter fun booking => booking.placementRequestId = some id
      (bookings.map Booking.id).foldl (booking note .relatedPlacementRequestWithdrawn)
        (cascade.mark (.placementRequest id)
          { tree with
            placementRequests := updateFirst (fun request => request.id = id)
              (fun request => { request with withdrawal := some (note.withdrawal reason) })
              tree.placementRequests })

/-- Withdraws a placement application, then the placement requests raised for it. -/
def placementApplication (note : WithdrawalNote) (reason : WithdrawalReason) (cascade : Cascade)
    (id : PlacementApplicationId) : Cascade :=
  let tree := cascade.tree
  match tree.placementApplications.find? fun placement => placement.id = id with
  | none => cascade
  | some placement =>
    if placement.isWithdrawn then cascade.skip (.placementApplication id) .alreadyWithdrawn
    else
      let requests := tree.placementRequests.filter fun request =>
        request.placementApplicationId = some id
      (requests.map PlacementRequest.id).foldl
        (placementRequest note .relatedPlacementApplicationWithdrawn)
        (cascade.mark (.placementApplication id)
          { tree with
            placementApplications := updateFirst (fun placement => placement.id = id)
              (fun placement => { placement with withdrawal := some (note.withdrawal reason) })
              tree.placementApplications })

/-- Withdraws assessments in their order; `done` are the ones before them. -/
def assessments (cascade : Cascade) (done : List Assessment) : List Assessment → Cascade
  | [] => { cascade with tree := { cascade.tree with assessments := done } }
  | assessment :: rest =>
    let entity := Entity.assessment assessment.id
    if assessment.withdrawn then
      (cascade.skip entity .alreadyWithdrawn).assessments (done ++ [assessment]) rest
    else if assessment.reallocatedOn.isSome then
      (cascade.skip entity .reallocated).assessments (done ++ [assessment]) rest
    else
      (cascade.mark entity cascade.tree).assessments
        (done ++ [{ assessment with withdrawn := true }]) rest

/-- Withdraws the application, then its assessments, its placement applications, the placement
    requests that come from no placement application and the bookings that come from no placement
    request. -/
def application (note : WithdrawalNote) (reason : WithdrawalReason) (cascade : Cascade) :
    Cascade :=
  let tree := cascade.tree
  let entity := Entity.application tree.application.id
  if tree.application.isWithdrawn then cascade.skip entity .alreadyWithdrawn
  else
    let child := WithdrawalReason.relatedApplicationWithdrawn
    let cascade := cascade.mark entity
      { tree with
        application :=
          { tree.application with
            status := .withdrawn, withdrawal := some (note.withdrawal reason) } }
    let cascade := cascade.assessments [] tree.assessments
    let cascade := (tree.placementApplications.map PlacementApplication.id).foldl
      (placementApplication note child) cascade
    let firstRequests := tree.placementRequests.filter fun request =>
      request.placementApplicationId.isNone
    let cascade := (firstRequests.map PlacementRequest.id).foldl
      (placementRequest note child) cascade
    let ownBookings := tree.bookings.filter fun booking => booking.placementRequestId.isNone
    (ownBookings.map Booking.id).foldl (booking note child) cascade

end Cascade

/-! ## 3. Withdrawing -/

/-- Whether a tree holds a booking with this identifier and an arrival. -/
def Tree.hasArrived (tree : Tree) (id : BookingId) : Bool :=
  tree.bookings.any fun booking => booking.id = id && booking.hasArrival

/-- **Withdraws a node of a tree and everything below it that is still open.** -/
def Tree.withdraw (tree : Tree) (target : WithdrawalTarget) (reason : WithdrawalReason)
    (note : WithdrawalNote) : Except CascadeError (WithdrawalOutcome × Tree) :=
  if !tree.contains target.entity then .error (.notInTree target.entity)
  else
    let start : Cascade := ⟨tree, [], []⟩
    let finish (cascade : Cascade) : Except CascadeError (WithdrawalOutcome × Tree) :=
      .ok (⟨target.entity, cascade.withdrawn, cascade.skipped⟩, cascade.tree)
    match target with
    | .application _ => finish (start.application note reason)
    | .placementApplication id => finish (start.placementApplication note reason id)
    | .placementRequest id => finish (start.placementRequest note reason id)
    | .booking id =>
      if tree.hasArrived id then .error (.arrivalRecorded id)
      else finish (start.booking note reason id)

end Bedspace
