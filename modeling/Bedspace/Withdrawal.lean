import Bedspace.Calendar.Date

/-!
# Reasons for withdrawing

Applications, placements and bookings are withdrawn for a reason. Three reasons are kept for what
follows from the withdrawal of something above (`isCascaded`); nobody may give them by hand.
-/

namespace Bedspace

/-- Why something was withdrawn or cancelled. -/
inductive WithdrawalReason where
  | changeInCircumstances
  | duplicateApplication
  | deathOfApplicant
  | alternativeProvisionIdentified
  | bookedInError
  | noCapacity
  | other
  | relatedApplicationWithdrawn
  | relatedPlacementApplicationWithdrawn
  | relatedPlacementRequestWithdrawn
  deriving DecidableEq, Repr

namespace WithdrawalReason

/-- All reasons. -/
def all : List WithdrawalReason := [
  .changeInCircumstances, .duplicateApplication, .deathOfApplicant,
  .alternativeProvisionIdentified, .bookedInError, .noCapacity, .other,
  .relatedApplicationWithdrawn, .relatedPlacementApplicationWithdrawn,
  .relatedPlacementRequestWithdrawn]

/-- The word for a reason. -/
def label : WithdrawalReason → String
  | .changeInCircumstances => "change_in_circumstances"
  | .duplicateApplication => "duplicate_application"
  | .deathOfApplicant => "death_of_applicant"
  | .alternativeProvisionIdentified => "alternative_provision_identified"
  | .bookedInError => "booked_in_error"
  | .noCapacity => "no_capacity"
  | .other => "other"
  | .relatedApplicationWithdrawn => "related_application_withdrawn"
  | .relatedPlacementApplicationWithdrawn => "related_placement_application_withdrawn"
  | .relatedPlacementRequestWithdrawn => "related_placement_request_withdrawn"

/-- The reason with exactly this word. -/
def ofLabel? (word : String) : Option WithdrawalReason :=
  all.find? fun reason => reason.label = word

/-- Whether a reason only ever follows from another withdrawal. -/
def isCascaded : WithdrawalReason → Bool
  | .relatedApplicationWithdrawn => true
  | .relatedPlacementApplicationWithdrawn => true
  | .relatedPlacementRequestWithdrawn => true
  | _ => false

end WithdrawalReason

/-- The withdrawal of an application or of a placement. -/
structure Withdrawal where
  reason : WithdrawalReason
  withdrawnOn : Date
  notes : Option String
  deriving DecidableEq

end Bedspace
