import Bedspace.Settings.Pattern.Mode
import Bedspace.Text.Alphanumeric

/-!
# Openings of groups

A parenthesis opens a group, which may have a name in angle brackets or flags before a colon. Flags
before a closing parenthesis are for what follows in the group around them.

* `Opening.read` reads what follows an opening parenthesis.
-/

namespace Bedspace.Pattern

open Text

/-- What an opening parenthesis is the beginning of. -/
inductive Opening where
  /-- Flags, with the mode after them. -/
  | flags (mode : Mode)
  /-- A group that is read in a mode, and has a name or not. -/
  | group (mode : Mode) (name : Option (List Char))
  deriving DecidableEq, Repr

/-- Whether characters are the name of a group. -/
def isGroupName : List Char → Bool
  | [] => false
  | c :: cs =>
    (c = '_' || isAlphabetic c) && cs.all fun c => "_.[]".toList.contains c || isAlphanumeric c

namespace Opening

/-- A name up to its closing angle bracket, and what follows it. -/
def readNamed (mode : Mode) (cs : List Char) : Option (Opening × List Char) :=
  let name := cs.takeWhile (· ≠ '>')
  match cs.dropWhile (· ≠ '>') with
  | '>' :: rest => if isGroupName name then some (.group mode (some name), rest) else none
  | _ => none

/-- Flags up to a colon or a closing parenthesis, before which there is at least one, and what
    follows it. -/
def readFlags (mode : Mode) (cs : List Char) : Option (Opening × List Char) :=
  let isFlag (c : Char) : Bool := c ≠ ':' && c ≠ ')'
  let flags := cs.takeWhile isFlag
  if Mode.areFlags flags then
    match cs.dropWhile isFlag with
    | ':' :: rest => some (.group (mode.set flags) none, rest)
    | ')' :: rest => if flags.isEmpty then none else some (.flags (mode.set flags), rest)
    | _ => none
  else none

/-- What the characters after an opening parenthesis begin, and what follows the beginning. -/
def read (mode : Mode) (cs : List Char) : Option (Opening × List Char) :=
  match mode.skip cs with
  | '?' :: 'P' :: '<' :: rest | '?' :: '<' :: rest => readNamed mode rest
  | '?' :: rest => readFlags mode rest
  | rest => some (.group mode none, rest)

end Opening

end Bedspace.Pattern
