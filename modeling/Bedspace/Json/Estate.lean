import Bedspace.Estate.Basic
import Bedspace.Calendar.DateText
import Bedspace.Json.Value

/-!
# The estate in JSON

How premises, rooms, beds and postcode districts are written.
-/

namespace Bedspace

open Json

/-- An identifier as JSON. -/
def Id.json {kind : Kind} (id : Id kind) : Json := .text id.text

/-- A date as JSON. -/
def Date.json (date : Date) : Json := .text date.text

/-- A set of texts as JSON, in its order. -/
def TextSet.json (texts : TextSet) : Json := listOf .text texts.rows

/-- A point as JSON. -/
def Coordinates.json (point : Coordinates) : Json :=
  .object [("latitude", .real point.latitude), ("longitude", .real point.longitude)]

/-- Premises as JSON. -/
def Premises.json (premises : Premises) : Json :=
  .object [
    ("id", premises.id.json),
    ("name", .text premises.name),
    ("service", .text premises.service.label),
    ("status", .text premises.status.label),
    ("postcode", .text premises.postcode),
    ("probationDeliveryUnit", .text premises.probationDeliveryUnit),
    ("location", optional Coordinates.json premises.location),
    ("characteristics", TextSet.json premises.characteristics),
    ("turnaroundDays", nat premises.turnaroundDays)]

/-- A room as JSON. -/
def Room.json (room : Room) : Json :=
  .object [
    ("id", room.id.json),
    ("premisesId", room.premisesId.json),
    ("name", .text room.name),
    ("characteristics", TextSet.json room.characteristics)]

/-- A bed as JSON. -/
def Bed.json (bed : Bed) : Json :=
  .object [
    ("id", bed.id.json),
    ("roomId", bed.roomId.json),
    ("name", .text bed.name),
    ("endDate", optional Date.json bed.endDate)]

/-- A room with its beds as JSON. -/
def RoomInventory.json (inventory : RoomInventory) : Json :=
  .object [("room", inventory.room.json), ("beds", listOf Bed.json inventory.beds)]

/-- Premises with their rooms and beds as JSON. -/
def Inventory.json (inventory : Inventory) : Json :=
  .object [
    ("premises", inventory.premises.json),
    ("rooms", listOf RoomInventory.json inventory.rooms),
    ("bedCount", nat inventory.bedCount)]

/-- A postcode district as JSON. -/
def District.json (district : District) : Json :=
  .object [("outcode", .text district.outcode), ("location", district.location.json)]

/-- A summary of premises as JSON. -/
def PremisesSummary.json (summary : PremisesSummary) : Json :=
  .object [
    ("id", summary.id.json),
    ("name", .text summary.name),
    ("service", .text summary.service.label),
    ("status", .text summary.status.label),
    ("postcode", .text summary.postcode),
    ("probationDeliveryUnit", .text summary.probationDeliveryUnit),
    ("characteristics", TextSet.json summary.characteristics),
    ("bedCount", nat summary.bedCount)]

end Bedspace
