import Bedspace.Text.LowerCase
import Bedspace.Text.Number

/-!
# Addresses of a host

A host is given by the number of its network address, in one of the two usual notations, or as
`localhost`.

* four decimal numbers with points between them, without leading zeros (`readV4`);
* eight hexadecimal groups with colons between them; one `::` may stand for a row of zero groups,
  and the last two groups may be given as four decimal numbers (`readV6`);
* `HostAddress.text` writes an address: hexadecimal in lower case and without leading zeros, the
  longest row of two or more zero groups (the first of several) as `::`, and addresses that stand
  for one of four numbers with those.
-/

namespace Bedspace

open Text

/-- A network address. -/
inductive HostAddress where
  | v4 (a b c d : Nat)
  /-- Eight groups of 16 bits. -/
  | v6 (groups : List Nat)
  deriving DecidableEq, Repr

/-- A network address and a port. -/
structure SocketAddress where
  host : HostAddress
  port : Nat
  deriving DecidableEq, Repr

namespace HostAddress

/-! ## 1. Reading -/

/-- The fields between the occurrences of a character. -/
def fields (separator : Char) (cs : List Char) : List (List Char) := cs.splitOn separator

/-- A decimal number below 256 without a leading zero. -/
def readOctet : List Char → Option Nat
  | ['0'] => some 0
  | '0' :: _ => none
  | cs => if cs.length ≤ 3 then (readDigits cs).filter (· < 256) else none

/-- Four decimal numbers. -/
def readV4 (cs : List Char) : Option (Nat × Nat × Nat × Nat) :=
  match (fields '.' cs).map readOctet with
  | [some a, some b, some c, some d] => some (a, b, c, d)
  | _ => none

/-- The value of hexadecimal digits read after the value `acc`. -/
def hexFrom (acc : Nat) : List Char → Option Nat
  | [] => some acc
  | c :: cs =>
    match hexDigit c with
    | some digit => hexFrom (acc * 16 + digit) cs
    | none => none

/-- A group of one to four hexadecimal digits. -/
def readGroup (cs : List Char) : Option Nat :=
  if cs.isEmpty || 4 < cs.length then none else hexFrom 0 cs

/-- The groups of a row of fields, of which the last one may be four decimal numbers if `mixed`. -/
def readGroups (mixed : Bool) : List (List Char) → Option (List Nat)
  | [] => some []
  | [last] =>
    match readGroup last with
    | some group => some [group]
    | none =>
      if mixed then (readV4 last).map fun (a, b, c, d) => [a * 256 + b, c * 256 + d] else none
  | first :: rest =>
    match readGroup first, readGroups mixed rest with
    | some group, some groups => some (group :: groups)
    | _, _ => none

/-- The groups of a text with colons; nothing at all is no group. -/
def readRow (mixed : Bool) (cs : List Char) : Option (List Nat) :=
  if cs.isEmpty then some [] else readGroups mixed (fields ':' cs)

/-- The characters before the first `::` and after it. -/
def splitAtGap : List Char → Option (List Char × List Char)
  | ':' :: ':' :: rest => some ([], rest)
  | c :: rest => (splitAtGap rest).map fun (before, after) => (c :: before, after)
  | [] => none

/-- Eight groups, or fewer with a gap that stands for one zero group at least. -/
def readV6 (cs : List Char) : Option (List Nat) :=
  match splitAtGap cs with
  | none => (readRow true cs).filter fun groups => groups.length = 8
  | some (before, after) =>
    match readRow false before, readRow true after with
    | some front, some back =>
      let given := front.length + back.length
      if given ≤ 7 then some (front ++ List.replicate (8 - given) 0 ++ back) else none
    | _, _ => none

/-- The address that a text denotes. -/
def ofText? (s : String) : Option HostAddress :=
  match readV4 s.toList with
  | some (a, b, c, d) => some (.v4 a b c d)
  | none => (readV6 s.toList).map .v6

/-- The address of the host itself. -/
def loopback : HostAddress := .v4 127 0 0 1

/-- The address of a host by its name or its number. -/
def ofHost? (host : String) : Option HostAddress :=
  if asciiLower host = "localhost" then some loopback else ofText? host

/-! ## 2. Writing -/

/-- Four decimal numbers with points. -/
def v4Text (a b c d : Nat) : String :=
  ".".intercalate ([a, b, c, d].map toString)

/-- A group in hexadecimal. -/
def groupText (group : Nat) : String := String.ofList (Nat.toDigits 16 group)

/-- Groups with colons. -/
def rowText (groups : List Nat) : String := ":".intercalate (groups.map groupText)

/-- The number of zero groups in front. -/
def zerosInFront (groups : List Nat) : Nat := (groups.takeWhile (· = 0)).length

/-- Where the first of the longest rows of zero groups begins, and its length. -/
def longestGap : List Nat → Nat × Nat
  | [] => (0, 0)
  | group :: groups =>
    let here := zerosInFront (group :: groups)
    let (start, length) := longestGap groups
    if length ≤ here then (0, here) else (start + 1, length)

/-- Eight groups with the longest gap of two or more zero groups left out. -/
def gappedText (groups : List Nat) : String :=
  let (start, length) := longestGap groups
  if length < 2 then rowText groups
  else rowText (groups.take start) ++ "::" ++ rowText (groups.drop (start + length))

/-- Eight groups, or the four numbers for which they stand. -/
def v6Text : List Nat → String
  | [0, 0, 0, 0, 0, 0xFFFF, high, low] =>
    "::ffff:" ++ v4Text (high / 256) (high % 256) (low / 256) (low % 256)
  | groups => gappedText groups

/-- An address as text. -/
def text : HostAddress → String
  | v4 a b c d => v4Text a b c d
  | v6 groups => v6Text groups

end HostAddress

/-- An address with its port; groups with colons stand in brackets. -/
def SocketAddress.text (address : SocketAddress) : String :=
  match address.host with
  | .v4 a b c d => HostAddress.v4Text a b c d ++ ":" ++ toString address.port
  | .v6 groups => "[" ++ HostAddress.v6Text groups ++ "]:" ++ toString address.port

end Bedspace
