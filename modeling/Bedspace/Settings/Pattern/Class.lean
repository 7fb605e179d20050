import Bedspace.Settings.Pattern.Atom

/-!
# Classes of characters

A class stands in brackets. It holds characters, ranges of them with a dash between the first and
the last, classes with a name in colons, and other classes; `&&`, `--` and `~~` stand between sets
of them. After its opening bracket a circumflex turns a class around, and then dashes, or else one
closing bracket, are members of it.

* `readMember` reads a character or a range, and `readNamedClass` a class with a name;
* `readClass` reads a class after its opening bracket, and says how high it is built (`heightOf`).
-/

namespace Bedspace.Pattern

/-! ## 1. Members -/

/-- What follows a character or a range of a class. A dash before a closing bracket or another dash
    makes no range. -/
def readMember (mode : Mode) (cs : List Char) : Option (List Char) :=
  match readAtom mode cs with
  | none => none
  | some (first, rest) =>
    if first.isMember mode then
      match mode.skip rest with
      | '-' :: rest =>
        if mode.peek rest = some ']' || mode.peek rest = some '-' then some ('-' :: rest)
        else
          match first, readAtom mode (mode.skip rest) with
          | .character low _, some (.character high isByte, rest) =>
            if low ≤ high && (Atom.character high isByte).isMember mode then some rest else none
          | _, _ => none
      | rest => some rest
    else none

/-- The classes of ASCII characters that have a name. -/
def classNames : List String :=
  ["alnum", "alpha", "ascii", "blank", "cntrl", "digit", "graph", "lower", "print", "punct",
    "space", "upper", "word", "xdigit"]

/-- A class with a name in colons after its opening bracket, which a circumflex turns around:
    whether one does, and what follows it. -/
def readNamedClass : List Char → Option (Bool × List Char)
  | ':' :: cs =>
    let isNegated : Bool := cs.head? = some '^'
    let cs := if isNegated then cs.drop 1 else cs
    match cs.dropWhile (· ≠ ':') with
    | ':' :: ']' :: rest =>
      if classNames.contains (String.ofList (cs.takeWhile (· ≠ ':'))) then some (isNegated, rest)
      else none
    | _ => none
  | _ => none

/-! ## 2. Whole classes -/

/-- How high something is built of parts of some heights: a single part adds nothing to its own. -/
def heightOf : List Nat → Nat
  | [] => 0
  | [height] => height
  | heights => heights.foldl max 0 + 1

/-- How high a set of members is built, to the left of which another set may stand. -/
def setHeight (left : Option Nat) (members : List Nat) : Nat :=
  match left with
  | none => heightOf members
  | some height => max height (heightOf members) + 1

/-- Where in a class a character stands. -/
inductive ClassPlace where
  /-- Before the first member. -/
  | start
  /-- After dashes in front. -/
  | dashes
  /-- Anywhere else. -/
  | inside
  deriving DecidableEq, Repr

/-- The place after a character that is a member of a class only where it stands in front. -/
def ClassPlace.next (place : ClassPlace) (c : Char) : Option ClassPlace :=
  if c = '-' && place ≠ .inside then some .dashes
  else if c = ']' && place = .start then some .inside
  else none

/-- The characters after the circumflex that turns a class around, if there is one. All characters
    but some can be matched, and not all bytes but some. -/
def readNegation (mode : Mode) (cs : List Char) : Option (List Char) :=
  match mode.skip cs with
  | '^' :: rest => if mode.ofCharacters then some rest else none
  | cs => some cs

/-- A class from some place on, with the heights of its members so far, before which another set may
    stand: how high it is built, and what follows it. -/
def readClass (fuel : Nat) (mode : Mode) (place : ClassPlace) (left : Option Nat)
    (members : List Nat) (cs : List Char) : Option (Nat × List Char) :=
  match fuel with
  | 0 => none
  | fuel + 1 =>
    match mode.skip cs with
    | [] => none
    | c :: rest =>
      match place.next c with
      | some place =>
        if mode.admitsMember c.toNat then readClass fuel mode place left (0 :: members) rest
        else none
      | none =>
        match c :: rest with
        | ']' :: rest => some (setHeight left members, rest)
        | '&' :: '&' :: rest | '-' :: '-' :: rest | '~' :: '~' :: rest =>
          readClass fuel mode .inside (some (setHeight left members)) [] rest
        | '[' :: rest =>
          match readNamedClass rest with
          | some (isNegated, rest) =>
            if mode.admitsNamed isNegated then readClass fuel mode .inside left (0 :: members) rest
            else none
          | none =>
            match readNegation mode rest with
            | none => none
            | some rest =>
              match readClass fuel mode .start none [] rest with
              | some (height, rest) =>
                readClass fuel mode .inside left ((height + 1) :: members) rest
              | none => none
        | cs =>
          match readMember mode cs with
          | some rest => readClass fuel mode .inside left (0 :: members) rest
          | none => none

end Bedspace.Pattern
