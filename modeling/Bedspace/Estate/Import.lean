import Bedspace.Calendar.DateText
import Bedspace.Csv.Row
import Bedspace.Decimal.Read
import Bedspace.Estate.Basic

/-!
# Importing an estate

An estate comes as a file with one row for each bed, in which the columns of its premises and its
room are repeated; postcode districts come as a file with one row each.

* `BedRecord.ofRow` checks a row on its own, column by column (`RowFault`);
* `Estate.ofRecords` puts the records together: premises, rooms and beds in the order in which they
  are first named, each with the attributes of the record that names it first. A bed may come once
  only, and a room belongs to one premises;
* `readEstate` and `readDistricts` do both; the first fault is the answer. A fault of a row carries
  the number of the row, where the first row below the column names is number 2.
-/

namespace Bedspace

open Text

/-! ## 1. What can be wrong -/

/-- What is wrong with the values of a row. -/
inductive RowFault where
  | empty (column : String)
  | unknownService (raw : String)
  | unknownStatus (raw : String)
  | outOfRange (column raw : String)
  | halfLocated
  | notADayCount (raw : String)
  | badEndDate (raw : String) (fault : DateFault)
  | repeatedBed (bed : String)
  | roomTaken (room owner : String)
  deriving DecidableEq, Repr

/-- The wording of a fault in the values of a row. -/
def RowFault.message : RowFault → String
  | .empty column => column ++ " is empty"
  | .unknownService raw => "unknown service '" ++ raw ++ "'"
  | .unknownStatus raw => "unknown status '" ++ raw ++ "'"
  | .outOfRange column raw => column ++ " '" ++ raw ++ "' is out of range"
  | .halfLocated => "latitude and longitude must be supplied together"
  | .notADayCount raw => "turnaround_days '" ++ raw ++ "' is not a day count"
  | .badEndDate raw fault => "bed_end_date '" ++ raw ++ "' (" ++ fault.message ++ ")"
  | .repeatedBed bed => "bed_id '" ++ bed ++ "' appears more than once"
  | .roomTaken room owner =>
    "room_id '" ++ room ++ "' already belongs to premises '" ++ owner ++ "'"

/-- Why an import fails. -/
inductive ImportError where
  | unreadable (reason : String)
  | csv (fault : Csv.Fault)
  | invalidRow (line : Nat) (fault : RowFault)
  deriving DecidableEq, Repr

/-- The wording of a failure. -/
def ImportError.message : ImportError → String
  | .unreadable reason => "failed to read estate export: " ++ reason
  | .csv fault => "invalid estate CSV data: " ++ fault.message
  | .invalidRow line fault =>
    "invalid estate row on line " ++ toString line ++ ": " ++ fault.message

/-! ## 2. Rows on their own -/

/-- A row of an estate file: one bed, with its room and its premises. -/
structure BedRecord where
  line : Nat
  premises : Premises
  room : Room
  bed : Bed

/-- The columns of an estate file. -/
def estateColumns : List Csv.Column := [
  ⟨"premises_id", true⟩, ⟨"premises_name", true⟩, ⟨"service", true⟩, ⟨"status", false⟩,
  ⟨"postcode", true⟩, ⟨"pdu", true⟩, ⟨"latitude", false⟩, ⟨"longitude", false⟩,
  ⟨"turnaround_days", false⟩, ⟨"premises_characteristics", false⟩, ⟨"room_id", true⟩,
  ⟨"room_name", true⟩, ⟨"room_characteristics", false⟩, ⟨"bed_id", true⟩, ⟨"bed_name", true⟩,
  ⟨"bed_end_date", false⟩]

/-- The columns of a file of postcode districts. -/
def districtColumns : List Csv.Column :=
  [⟨"outcode", true⟩, ⟨"latitude", true⟩, ⟨"longitude", true⟩]

/-- A number of degrees, at most `limit` to either side. -/
def readDegrees (column : String) (limit : Float) (raw : String) : Except RowFault Float :=
  match Decimal.readFloat raw with
  | some x => if x.isFinite && x.abs ≤ limit then .ok x else .error (.outOfRange column raw)
  | none => .error (.outOfRange column raw)

/-- The coordinates of a latitude and a longitude. -/
def readCoordinates (latitude longitude : String) : Except RowFault Coordinates := do
  let latitude ← readDegrees "latitude" 90.0 latitude
  let longitude ← readDegrees "longitude" 180.0 longitude
  pure ⟨latitude, longitude⟩

/-- Coordinates that may be left out, both together. -/
def readLocation (latitude longitude : Option String) :
    Except RowFault (Option Coordinates) :=
  match latitude, longitude with
  | none, none => .ok none
  | some latitude, some longitude => (readCoordinates latitude longitude).map some
  | _, _ => .error .halfLocated

/-- The characteristics of a list with semicolons; what is blank between them does not count. -/
def readCharacteristics (raw : String) : TextSet :=
  Table.ofList (((raw.toList.splitOn ';').map fun cs => String.ofList (trimChars cs)).filter
    fun item => item ≠ "")

/-- Demands a text that is not empty. -/
def demandFilled (column value : String) : Except RowFault Unit :=
  if value = "" then .error (.empty column) else .ok ()

/-- The value of an optional column; one of blanks only counts as left out. -/
def filled (value : Option String) : Option String :=
  value.filter fun text => !isEmptyTrimmed text

/-- Days of turnaround, zero if left out. -/
def readTurnaround : Option String → Except RowFault Nat
  | none => .ok 0
  | some raw =>
    match readNat limit32 raw with
    | some days => .ok days
    | none => .error (.notADayCount raw)

/-- The end date of a bed, if there is one. -/
def readEndDate : Option String → Except RowFault (Option Date)
  | none => .ok none
  | some raw =>
    match Date.read .tight raw with
    | .ok date => .ok (some date)
    | .error fault => .error (.badEndDate raw fault)

/-- The value of a column among the values of some columns; none if it was left out. -/
def cell (columns : List Csv.Column) (values : List (Option String)) (name : String) :
    Option String :=
  (((columns.map Csv.Column.name).zip values).lookup name).join

/-- Checks the values of `estateColumns` in a row. -/
def BedRecord.ofValues (line : Nat) (values : List (Option String)) :
    Except RowFault BedRecord := do
  let value (name : String) : String := (cell estateColumns values name).getD ""
  let optional (name : String) : Option String := filled (cell estateColumns values name)
  let premisesId := value "premises_id"
  let roomId := value "room_id"
  let bedId := value "bed_id"
  demandFilled "premises_id" premisesId
  demandFilled "room_id" roomId
  demandFilled "bed_id" bedId
  let rawService := value "service"
  let service ← ((Service.parse? rawService).elim (throw (.unknownService rawService)) pure)
  let rawStatus := (optional "status").getD ""
  let status ← ((PremisesStatus.parse? rawStatus).elim (throw (.unknownStatus rawStatus)) pure)
  let location ← readLocation (optional "latitude") (optional "longitude")
  let turnaroundDays ← readTurnaround (optional "turnaround_days")
  let endDate ← readEndDate (optional "bed_end_date")
  let premises : Premises :=
    { id := ⟨premisesId⟩, name := value "premises_name", service, status
      postcode := value "postcode", probationDeliveryUnit := value "pdu", location
      characteristics := readCharacteristics ((optional "premises_characteristics").getD "")
      turnaroundDays }
  let room : Room :=
    { id := ⟨roomId⟩, premisesId := ⟨premisesId⟩, name := value "room_name"
      characteristics := readCharacteristics ((optional "room_characteristics").getD "") }
  let bed : Bed := { id := ⟨bedId⟩, roomId := ⟨roomId⟩, name := value "bed_name", endDate }
  pure { line, premises, room, bed }

/-- Checks the values of `districtColumns` in a row. -/
def District.ofValues (values : List (Option String)) : Except RowFault District := do
  let value (name : String) : String := (cell districtColumns values name).getD ""
  demandFilled "outcode" (value "outcode")
  let location ← readCoordinates (value "latitude") (value "longitude")
  pure ⟨normalizeOutcode (value "outcode"), location⟩

/-- The number of the first row below the column names. -/
def firstRowLine : Nat := 2

/-- Checks the rows of a file one after the other, each with its number. -/
def checkRows {α : Type} (shape : String) (columns : List Csv.Column)
    (check : Nat → List (Option String) → Except RowFault α) (line : Nat) :
    List (Except Csv.Fault Csv.Row) → Except ImportError (List α)
  | [] => .ok []
  | row :: rows => do
    let row ← row.mapError .csv
    let values ← (row.select shape columns).mapError .csv
    let record ← (check line values).mapError (.invalidRow line)
    let records ← checkRows shape columns check (line + 1) rows
    pure (record :: records)

/-! ## 3. Putting records together -/

/-- Premises in the order in which they were first named. -/
abbrev Estate := List Inventory

namespace Estate

/-- Puts a bed into its room, after the beds that are there; a new room comes last. -/
def addToRooms (record : BedRecord) : List RoomInventory → List RoomInventory
  | [] => [⟨record.room, [record.bed]⟩]
  | r :: rooms =>
    if r.room.id = record.room.id then { r with beds := r.beds ++ [record.bed] } :: rooms
    else r :: addToRooms record rooms

/-- Puts a bed into its premises. -/
def addBed (record : BedRecord) (inventory : Inventory) : Inventory :=
  { inventory with rooms := addToRooms record inventory.rooms }

/-- An estate that is being put together, with what is looked up for each record: where premises
    stand in the estate, which premises a room belongs to, and which beds have come so far. -/
structure Draft where
  estate : Estate
  places : List (PremisesId × Nat)
  owners : List (RoomId × PremisesId)
  beds : List BedId

namespace Draft

/-- Nothing has come so far. -/
def empty : Draft := ⟨[], [], [], []⟩

/-- Notes a bed, unless it has come before. -/
def noteBed (draft : Draft) (record : BedRecord) : Except RowFault Draft :=
  if draft.beds.contains record.bed.id then .error (.repeatedBed record.bed.id.text)
  else .ok { draft with beds := record.bed.id :: draft.beds }

/-- Notes the premises of a room, unless the room belongs to others. -/
def noteRoom (draft : Draft) (record : BedRecord) : Except RowFault Draft :=
  match draft.owners.lookup record.room.id with
  | some owner =>
    if owner = record.premises.id then .ok draft
    else .error (.roomTaken record.room.id.text owner.text)
  | none => .ok { draft with owners := (record.room.id, record.premises.id) :: draft.owners }

/-- Puts a bed into the estate; new premises come last. -/
def place (draft : Draft) (record : BedRecord) : Draft :=
  match draft.places.lookup record.premises.id with
  | some position => { draft with estate := draft.estate.modify position (addBed record) }
  | none =>
    { draft with
      estate := draft.estate ++ [addBed record ⟨record.premises, []⟩]
      places := (record.premises.id, draft.estate.length) :: draft.places }

/-- Adds a record, unless it repeats a bed or moves a room. -/
def add (draft : Draft) (record : BedRecord) : Except RowFault Draft := do
  let draft ← draft.noteBed record
  let draft ← draft.noteRoom record
  pure (draft.place record)

/-- Adds records one after the other. -/
def addAll (draft : Draft) : List BedRecord → Except ImportError Draft
  | [] => .ok draft
  | record :: records => do
    let draft ← (draft.add record).mapError (.invalidRow record.line)
    draft.addAll records

end Draft

/-- The estate of a list of records. -/
def ofRecords (records : List BedRecord) : Except ImportError Estate :=
  (Draft.empty.addAll records).map Draft.estate

end Estate

/-! ## 4. Whole files -/

/-- The records of an estate file. -/
def readBedRecords (input : List UInt8) : Except ImportError (List BedRecord) :=
  checkRows "EstateRow" estateColumns BedRecord.ofValues firstRowLine (Csv.rows input)

/-- The estate of a file. -/
def readEstate (input : List UInt8) : Except ImportError Estate :=
  readBedRecords input >>= Estate.ofRecords

/-- The postcode districts of a file. -/
def readDistricts (input : List UInt8) : Except ImportError (List District) :=
  checkRows "DistrictRow" districtColumns (fun _ => District.ofValues) firstRowLine
    (Csv.rows input)

end Bedspace
