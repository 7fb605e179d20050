import Bedspace.Settings.Pattern.Mode
import Bedspace.Text.Number

/-!
# The smallest parts of a pattern

A character stands for itself, unless a backslash is in front of it: then a sign stands for itself,
and a letter for a character that cannot be seen, for a character given by its number, for an edge
or for a class.

* `readEscape` reads what follows a backslash, and `readAtom` a part with or without one.
-/

namespace Bedspace.Pattern

open Text

/-- A part of a pattern that holds no other part. -/
inductive Atom where
  /-- A character, which is written as a byte or not. -/
  | character (code : Nat) (isByte : Bool)
  /-- The start or the end of the text. -/
  | edge
  /-- A place where a word starts or ends, or where none does. -/
  | wordEdge
  /-- Digits, blanks or the characters of words, or all others. -/
  | kind (isNegated : Bool)
  deriving DecidableEq, Repr

/-- A number of exactly so many more hexadecimal digits, and what follows it. -/
def readHex (mode : Mode) (digits value : Nat) (cs : List Char) : Option (Nat × List Char) :=
  match digits with
  | 0 => some (value, cs)
  | digits + 1 =>
    match mode.skip cs with
    | [] => none
    | c :: rest =>
      match hexDigit c with
      | some digit => readHex mode digits (16 * value + digit) rest
      | none => none

/-- A character given by its number in so many digits, and what follows it. -/
def readNumbered (mode : Mode) (digits : Nat) (isByte : Bool) (cs : List Char) :
    Option (Atom × List Char) :=
  match readHex mode digits 0 cs with
  | some (code, rest) => if code.isValidChar then some (.character code isByte, rest) else none
  | none => none

/-- The character that cannot be seen for which a letter stands. -/
def unseen (c : Char) : Option Nat :=
  match c with
  | 'a' => some 0x07
  | 't' => some 0x09
  | 'n' => some 0x0A
  | 'v' => some 0x0B
  | 'f' => some 0x0C
  | 'r' => some 0x0D
  | _ => none

/-- What the characters after a backslash stand for, and what follows them. -/
def readEscape (mode : Mode) : List Char → Option (Atom × List Char)
  | [] => none
  | c :: rest =>
    match c with
    | 'x' => readNumbered mode 2 true rest
    | 'u' => readNumbered mode 4 false rest
    | 'U' => readNumbered mode 8 false rest
    | 'd' | 's' | 'w' => some (.kind false, rest)
    | 'D' | 'S' | 'W' => some (.kind true, rest)
    | 'b' | 'B' | '<' | '>' => some (.wordEdge, rest)
    | 'A' | 'z' => some (.edge, rest)
    | _ =>
      if c.isAlphanum then (unseen c).map fun code => (.character code false, rest)
      else if c.toNat < 0x80 then some (.character c.toNat false, rest)
      else none

/-- The part in front, where every sign but the backslash stands for itself, and what follows
    it. -/
def readAtom (mode : Mode) : List Char → Option (Atom × List Char)
  | [] => none
  | '\\' :: rest => readEscape mode rest
  | c :: rest => some (.character c.toNat false, rest)

/-- Whether a part can be matched where it stands alone. Words are known in ASCII only. -/
def Atom.isAdmitted (mode : Mode) : Atom → Bool
  | .character code isByte => mode.admits code isByte
  | .edge => true
  | .wordEdge => !mode.ofCharacters
  | .kind isNegated => mode.admitsKind isNegated

/-- Whether a part can be matched as a member of a class, where there are no edges. -/
def Atom.isMember (mode : Mode) : Atom → Bool
  | .character code _ => mode.admitsMember code
  | .kind isNegated => mode.admitsKind isNegated
  | _ => false

end Bedspace.Pattern
