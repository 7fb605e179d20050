import Bedspace.Text.Utf8
import Bedspace.Text.Blank

/-!
# Records of a comma separated file

A file is a row of records, each ended by a line feed, a carriage return or the end of the file,
and a record is a row of fields with commas between them. A field in quotes may hold commas and
line ends, and a quote written twice. Line ends with nothing between them are no records.

* `records` splits the bytes of a file; a byte order mark in front is skipped;
* each record knows where reading it began (`Position`): right after the line end of the record
  before it. That is before empty lines, and between the two bytes of a line end of two bytes.
-/

namespace Bedspace.Csv

open Text

/-- Where a record begins: how many records, line feeds and bytes come before it. -/
structure Position where
  record : Nat
  line : Nat
  byte : Nat
  deriving DecidableEq, Repr

/-- The fields of a record as they were written, and where it begins. -/
structure Record where
  position : Position
  fields : List (List UInt8)

/-! ## 1. Reading byte by byte -/

/-- Where in a record a byte stands. -/
inductive Place where
  | recordStart
  | fieldStart
  | field
  | quoted
  | quoteSeen
  | returnSeen
  deriving DecidableEq, Repr

/-- A file read up to some byte: the finished records, the fields and the bytes of the record at
    hand (each latest first), where it began and where the next byte stands. -/
structure Scan where
  finished : List Record
  fields : List (List UInt8)
  bytes : List UInt8
  start : Position
  here : Position
  place : Place

def quote : UInt8 := 0x22
def comma : UInt8 := 0x2C
def lineFeed : UInt8 := 0x0A
def carriageReturn : UInt8 := 0x0D

namespace Scan

/-- Nothing has been read but a mark of `skipped` bytes. -/
def initial (skipped : Nat) : Scan :=
  ⟨[], [], [], ⟨0, 1, 0⟩, ⟨0, 1, skipped⟩, .recordStart⟩

/-- Takes one more byte into the field at hand. -/
def take (scan : Scan) (b : UInt8) (place : Place) : Scan :=
  { scan with bytes := b :: scan.bytes, place }

/-- Ends the field at hand. -/
def endField (scan : Scan) : Scan :=
  { scan with fields := scan.bytes.reverse :: scan.fields, bytes := [], place := .fieldStart }

/-- Ends the record at hand; the next one begins after the byte that did so. -/
def endRecord (scan : Scan) (place : Place) : Scan :=
  let scan := scan.endField
  let next := { scan.here with record := scan.here.record + 1 }
  { finished := ⟨scan.start, scan.fields.reverse⟩ :: scan.finished
    fields := [], bytes := [], start := next, here := next, place }

/-- A byte that ends the field, or the record, or else is taken into the field. -/
def delimitOr (scan : Scan) (b : UInt8) (other : Scan → Scan) : Scan :=
  if b == comma then scan.endField
  else if b == lineFeed then scan.endRecord .recordStart
  else if b == carriageReturn then scan.endRecord .returnSeen
  else other scan

/-- The first byte of a field. -/
def firstOfField (scan : Scan) (b : UInt8) : Scan :=
  if b == quote then { scan with place := .quoted }
  else scan.delimitOr b fun scan => scan.take b .field

/-- The first byte of a record; line ends before it are skipped. -/
def firstOfRecord (scan : Scan) (b : UInt8) : Scan :=
  if b == lineFeed || b == carriageReturn then { scan with place := .recordStart }
  else scan.firstOfField b

/-- What one byte does, once the position has moved past it. -/
def enter (scan : Scan) (b : UInt8) : Scan :=
  match scan.place with
  | .recordStart => scan.firstOfRecord b
  | .returnSeen =>
    if b == lineFeed then { scan with place := .recordStart } else scan.firstOfRecord b
  | .fieldStart => scan.firstOfField b
  | .field => scan.delimitOr b fun scan => scan.take b .field
  | .quoted =>
    if b == quote then { scan with place := .quoteSeen } else scan.take b .quoted
  | .quoteSeen =>
    if b == quote then scan.take b .quoted
    else scan.delimitOr b fun scan => scan.take b .field

/-- Reads one byte. -/
def step (scan : Scan) (b : UInt8) : Scan :=
  let here :=
    { scan.here with
      byte := scan.here.byte + 1
      line := if b == lineFeed then scan.here.line + 1 else scan.here.line }
  { scan with here }.enter b

/-- The records once the end of the file is reached, which ends a record that was begun. -/
def finish (scan : Scan) : List Record :=
  match scan.place with
  | .recordStart | .returnSeen => scan.finished.reverse
  | _ => (scan.endRecord .recordStart).finished.reverse

end Scan

/-- The records of a file. -/
def records (input : List UInt8) : List Record :=
  match input with
  | 0xEF :: 0xBB :: 0xBF :: rest => (rest.foldl Scan.step (Scan.initial 3)).finish
  | _ => (input.foldl Scan.step (Scan.initial 0)).finish

end Bedspace.Csv
