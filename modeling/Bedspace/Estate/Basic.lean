import Bedspace.Calendar.Date
import Bedspace.Estate.Distance
import Bedspace.Id
import Bedspace.Table
import Bedspace.Text.Blank
import Bedspace.Text.LowerCase

/-!
# The estate: premises, rooms and beds

* `Premises` are run under one of two services; they may be archived, may lack coordinates, and
  keep a bed of temporary accommodation blocked for some turnaround days after a departure;
* an `Inventory` is a premises with its rooms and their beds; `Inventory.locate?` finds a bed
  together with its room;
* a `District` is a postcode district with its centre, filed under its outcode.
-/

namespace Bedspace

open Text

/-! ## 1. Words of the domain -/

/-- The services that run premises. -/
inductive Service where
  | approvedPremises
  | temporaryAccommodation
  deriving DecidableEq, Repr

namespace Service

/-- The name of a service. -/
def label : Service → String
  | .approvedPremises => "approved-premises"
  | .temporaryAccommodation => "temporary-accommodation"

/-- The service with exactly this name. -/
def ofLabel? : String → Option Service
  | "approved-premises" => some .approvedPremises
  | "temporary-accommodation" => some .temporaryAccommodation
  | _ => none

/-- The service that a text means: its name in any case, with dash or underscore, or an
    abbreviation. -/
def parse? (raw : String) : Option Service :=
  match asciiLower (trim raw) with
  | "approved-premises" | "approved_premises" | "ap" | "cas1" => some .approvedPremises
  | "temporary-accommodation" | "temporary_accommodation" | "ta" | "cas3" =>
    some .temporaryAccommodation
  | _ => none

end Service

/-- Whether premises take bookings. -/
inductive PremisesStatus where
  | active
  | archived
  deriving DecidableEq, Repr

namespace PremisesStatus

/-- The name of a status. -/
def label : PremisesStatus → String
  | .active => "active"
  | .archived => "archived"

/-- The status that a text means; nothing means active. -/
def parse? (raw : String) : Option PremisesStatus :=
  match asciiLower (trim raw) with
  | "" | "active" => some .active
  | "archived" => some .archived
  | _ => none

end PremisesStatus

/-- An outcode in the form under which districts are filed. -/
def normalizeOutcode (raw : String) : String := asciiUpper (trim raw)

/-! ## 2. Premises, rooms and beds -/

/-- A building under a service. -/
structure Premises where
  id : PremisesId
  name : String
  service : Service
  status : PremisesStatus
  postcode : String
  probationDeliveryUnit : String
  location : Option Coordinates
  characteristics : TextSet
  turnaroundDays : Nat

/-- Whether premises take bookings. -/
def Premises.isActive (premises : Premises) : Bool := premises.status = .active

/-- A room of some premises. -/
structure Room where
  id : RoomId
  premisesId : PremisesId
  name : String
  characteristics : TextSet

/-- A bed in a room. From its end date on it is out of use for good. -/
structure Bed where
  id : BedId
  roomId : RoomId
  name : String
  endDate : Option Date
  deriving DecidableEq

/-- Whether a bed is still in use on a date. -/
def Bed.inServiceOn (bed : Bed) (date : Date) : Bool :=
  match bed.endDate with
  | none => true
  | some endDate => date < endDate

/-- A room with its beds. -/
structure RoomInventory where
  room : Room
  beds : List Bed

/-- Premises with their rooms and beds. -/
structure Inventory where
  premises : Premises
  rooms : List RoomInventory

instance : Keyed Inventory := ⟨fun inventory => inventory.premises.id.text⟩

namespace Inventory

/-- Every bed with its room, room by room. -/
def beds (inventory : Inventory) : List (Room × Bed) :=
  inventory.rooms.flatMap fun r => r.beds.map fun bed => (r.room, bed)

/-- The number of beds. -/
def bedCount (inventory : Inventory) : Nat :=
  inventory.beds.length

/-- The first bed with an identifier, and its room. -/
def locate? (inventory : Inventory) (id : BedId) : Option (Room × Bed) :=
  inventory.beds.find? fun place => place.2.id = id

theorem of_locate?_eq_some {inventory : Inventory} {id : BedId} {found : Room × Bed}
    (h : inventory.locate? id = some found) : found ∈ inventory.beds ∧ found.2.id = id := by
  unfold locate? at h
  have hfits := List.find?_some h
  exact ⟨List.mem_of_find?_eq_some h, of_decide_eq_true hfits⟩

theorem exists_locate? {inventory : Inventory} {found : Room × Bed}
    (h : found ∈ inventory.beds) : ∃ first, inventory.locate? found.2.id = some first := by
  unfold locate?
  rw [← Option.isSome_iff_exists, List.find?_isSome]
  exact ⟨found, h, decide_eq_true rfl⟩

end Inventory

/-- A postcode district and the point that stands for it. -/
structure District where
  outcode : String
  location : Coordinates

instance : Keyed District := ⟨fun district => normalizeOutcode district.outcode⟩

/-! ## 3. Summaries -/

/-- What a listing shows of premises. -/
structure PremisesSummary where
  id : PremisesId
  name : String
  service : Service
  status : PremisesStatus
  postcode : String
  probationDeliveryUnit : String
  characteristics : TextSet
  bedCount : Nat

/-- The summary of premises with their beds. -/
def Inventory.summary (inventory : Inventory) : PremisesSummary :=
  let p := inventory.premises
  { id := p.id, name := p.name, service := p.service, status := p.status, postcode := p.postcode
    probationDeliveryUnit := p.probationDeliveryUnit, characteristics := p.characteristics
    bedCount := inventory.bedCount }

end Bedspace
