import Bedspace.Search.Availability
import Bedspace.Store.Program
import Bedspace.Text.LowerCase
import Bedspace.Text.Number
import Bedspace.Text.Order

/-!
# Finding free beds

The two searches as operations over the store. Both check the request, read the estate of their
service, read what holds beds on the nights that are searched for and on as many nights before as
the longest turnaround has, and choose from that.

* `findApprovedPremises`: beds within a distance of the district's centre, nearest first, then by
  the names of premises, room and bed;
* `findTemporaryAccommodation`: premises of the wanted delivery units with free beds, by name; the
  names of units are compared in lower case.
-/

namespace Bedspace

open Text

/-! ## 1. Distances in order -/

/-- Where a number stands in the total order, by sign and then by size: the bits of its size, negative
    for negative numbers, so that negative zero comes before zero. What is not a number comes before
    all numbers. -/
def Decimal.orderKey (x : Float) : Int :=
  let bits : Nat := x.toBits.toNat
  let size : Nat := bits % bitValues 63
  if x.isNaN then -(bitValues 63 : Int)
  else if bits < bitValues 63 then size
  else -(size : Int) - 1

/-- Compares two numbers in the total order. -/
def Decimal.totalOrder (x y : Float) : Ordering := compare (orderKey x) (orderKey y)

namespace BedSearch

open InvalidParams Operation

/-! ## 2. The request -/

/-- The rules that a number of nights breaks. -/
def durationRules (startDate : Date) (durationDays : Int) : InvalidParams :=
  if durationDays < 1 then [⟨"$.durationDays", "mustBePositive"⟩]
  else
    noteIf
      (limit32 ≤ durationDays.toNat
        || (DateRange.ofDuration? startDate durationDays.toNat).isNone)
      "$.durationDays" "tooLarge"

/-- The nights that are searched for; none if the number of nights breaks a rule. -/
def range (startDate : Date) (durationDays : Int) : DateRange :=
  .spanning startDate (startDate.later durationDays.toNat)

/-- Whether a distance can be searched within. -/
def isDistance (miles : Float) : Bool := miles.isFinite && miles > 0.0

/-- The rules that a search in approved premises breaks. -/
def approvedRules (search : ApprovedPremisesSearch) (miles : Float) : InvalidParams :=
  noteIf (isEmptyTrimmed search.postcodeDistrict) "$.postcodeDistrict" "empty"
    ++ noteIf (!isDistance miles) "$.maxDistanceMiles" "mustBePositive"
    ++ durationRules search.startDate search.durationDays

/-- The names of the wanted delivery units, ready to be compared. -/
def wantedUnits (search : TemporaryAccommodationSearch) : List String :=
  (search.probationDeliveryUnits.map fun unit => lowerCase (trim unit)).filter fun unit => unit ≠ ""

/-- The rules that a search in temporary accommodation breaks. -/
def temporaryRules (search : TemporaryAccommodationSearch) : InvalidParams :=
  noteIf (wantedUnits search).isEmpty "$.probationDeliveryUnits" "empty"
    ++ durationRules search.startDate search.durationDays

/-- Fails if a rule is broken. -/
def obey (params : InvalidParams) : Operation BedSearchError Unit :=
  failIf (!params.isEmpty) (.invalid params)

/-! ## 3. What holds beds -/

/-- What holds beds on some days and before them for as long as the longest turnaround. -/
def readOccupancy (estate : List Inventory) (range : DateRange) (turnaround : PremisesId → Nat) :
    Operation BedSearchError Occupancy := do
  let bookings ← call .store
    (.bookingsOver (range.startingEarlierBy (longestTurnaround estate)))
  let outOfService ← call .store (.outOfServiceOver range)
  pure ⟨bookings, outOfService, turnaround⟩

/-! ## 4. Approved premises -/

/-- Whether a bed comes before another one, or level with it. -/
def nearerFirst (a b : ApprovedPremisesBed) : Bool :=
  match Decimal.totalOrder a.distanceMiles b.distanceMiles with
  | .lt => true
  | .gt => false
  | .eq =>
    let names (bed : ApprovedPremisesBed) := [bed.premises.name, bed.room.name, bed.bed.name]
    precedes (names a) (names b)

/-- The free beds of premises within a distance of a point. -/
def approvedBeds (centre : Coordinates) (miles : Float) (search : ApprovedPremisesSearch)
    (range : DateRange) (occupancy : Occupancy) (inventory : Inventory) :
    List ApprovedPremisesBed :=
  match inventory.premises.location with
  | none => []
  | some location =>
    let distance := centre.miles location
    if !search.required.fitPremises inventory.premises || distance > miles then []
    else
      (inventory.freeBeds search.required range occupancy).map fun (room, bed) =>
        ⟨distance, inventory.premises, room, bed⟩

/-- Free beds of approved premises near a postcode district. -/
def findApprovedPremises (defaultMiles : Float) (search : ApprovedPremisesSearch) :
    Operation BedSearchError (List ApprovedPremisesBed) := do
  let miles := search.maxDistanceMiles.getD defaultMiles
  obey (approvedRules search miles)
  let range := range search.startDate search.durationDays
  let outcode := trim search.postcodeDistrict
  let found ← call .store (.district outcode)
  let district ← demand (.unknownPostcodeDistrict outcode) found
  let estate ← call .store (.inventory .approvedPremises)
  let occupancy ← readOccupancy estate range fun _ => 0
  pure ((estate.flatMap (approvedBeds district.location miles search range occupancy)).mergeSort
    nearerFirst)

/-! ## 5. Temporary accommodation -/

/-- Whether a bed comes before another one of the same premises, or level with it. -/
def bedListedBefore (a b : Room × Bed) : Bool :=
  precedes [a.1.name, a.2.name] [b.1.name, b.2.name]

/-- Whether premises come before other ones. -/
def groupListedBefore (a b : TemporaryAccommodationGroup) : Bool :=
  precedes [a.premises.name, a.premises.id.text] [b.premises.name, b.premises.id.text]

/-- Premises with their free beds, if there are any. -/
def temporaryGroup? (search : TemporaryAccommodationSearch) (range : DateRange)
    (occupancy : Occupancy) (inventory : Inventory) : Option TemporaryAccommodationGroup :=
  if !search.required.fitPremises inventory.premises then none
  else
    let beds := inventory.freeBeds search.required range occupancy
    if beds.isEmpty then none
    else
      some ⟨inventory.premises, beds.mergeSort bedListedBefore,
        inventory.overlaps range occupancy.bookings⟩

/-- Temporary accommodation with free beds in some delivery units. -/
def findTemporaryAccommodation (search : TemporaryAccommodationSearch) :
    Operation BedSearchError (List TemporaryAccommodationGroup) := do
  obey (temporaryRules search)
  let range := range search.startDate search.durationDays
  let all ← call .store (.inventory .temporaryAccommodation)
  let units := wantedUnits search
  let estate := all.filter fun inventory =>
    units.contains (lowerCase inventory.premises.probationDeliveryUnit)
  let occupancy ← readOccupancy estate range (turnaroundOf estate)
  pure ((estate.filterMap (temporaryGroup? search range occupancy)).mergeSort groupListedBefore)

/-! ## 6. Both -/

/-- Searches the estate of the service that is asked for. -/
def find (defaultMiles : Float) : BedSearch → Operation BedSearchError BedSearchResults
  | approvedPremises search => do
    let beds ← findApprovedPremises defaultMiles search
    pure (.approvedPremises beds)
  | temporaryAccommodation search => do
    let groups ← findTemporaryAccommodation search
    pure (.temporaryAccommodation groups)

end BedSearch

end Bedspace
