import Bedspace.Calendar.DateText
import Bedspace.Decimal.Fixed
import Bedspace.Search.Basic

/-!
# Results of a search as lines

What a search found as text for people: how much was found, then a line for each bed. Distances have
one place and fill six characters; temporary accommodation is grouped by premises, with a line for
each booking on the same nights.
-/

namespace Bedspace

open Text

/-- The text filled up with blanks in front to `width` characters. -/
def Text.padStart (width : Nat) (s : String) : String :=
  String.ofList (s.toList.leftpad width ' ')

/-- How much was found, in one line. -/
def ResultCounts.line (counts : ResultCounts) : String :=
  toString counts.premises ++ " premises | " ++ toString counts.rooms ++ " rooms | "
    ++ toString counts.beds ++ " beds"

/-- A bed with its distance, in one line. -/
def ApprovedPremisesBed.line (result : ApprovedPremisesBed) : String :=
  "- " ++ padStart 6 (Decimal.fixed 1 result.distanceMiles) ++ " mi  "
    ++ result.premises.name ++ " / " ++ result.room.name ++ " / " ++ result.bed.name

/-- A booking on the same nights, in one line. -/
def BookingOverlap.line (overlap : BookingOverlap) : String :=
  "  overlaps booking " ++ overlap.bookingId.text ++ " (" ++ overlap.crn ++ ") "
    ++ overlap.arrivalDate.text ++ " -> " ++ overlap.departureDate.text ++ ": "
    ++ toString overlap.days ++ " nights"

/-- Premises with their free beds: a blank line, a heading and a line for each bed and booking. -/
def TemporaryAccommodationGroup.lines (group : TemporaryAccommodationGroup) : List String :=
  let premises := group.premises
  ["", premises.name ++ " (" ++ premises.postcode ++ ", " ++ premises.probationDeliveryUnit ++ ")"]
    ++ group.beds.map (fun (room, bed) => "- " ++ room.name ++ " / " ++ bed.name)
    ++ group.overlaps.map BookingOverlap.line

namespace BedSearchResults

/-- A line for each bed that was found, under headings if there are any. -/
def bedLines : BedSearchResults → List String
  | approvedPremises beds => beds.map ApprovedPremisesBed.line
  | temporaryAccommodation groups => groups.flatMap TemporaryAccommodationGroup.lines

/-- The results as lines. -/
def lines (results : BedSearchResults) : List String :=
  let beds := results.bedLines
  results.counts.line :: if beds.isEmpty then ["", "No beds available"] else beds

end BedSearchResults

end Bedspace
