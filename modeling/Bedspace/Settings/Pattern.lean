import Bedspace.Settings.Pattern.Class
import Bedspace.Settings.Pattern.Group

/-!
# Patterns in order

A pattern describes texts: characters stand for themselves, `|` stands between alternatives,
parentheses make a group, brackets hold a class of characters, `*`, `+` and `?` repeat what is
before them, and a backslash gives the next character another meaning.

* `Pattern.isValid` says whether a text is a pattern: groups and classes are closed, no two groups
  have one name, something stands before each sign of repetition, all that it matches can be
  matched, and it is not built too high;
* a brace opens a count of repetitions, which never ends in the texts that are looked at here, so it
  stands in classes and after a backslash only.
-/

namespace Bedspace.Pattern

/-- A part of an alternative: how high it is built, and whether it can be repeated. -/
structure Part where
  height : Nat
  repeats : Bool
  deriving DecidableEq, Repr

/-- How high alternatives are built, the last of which consists of some parts. -/
def branchesHeight (branches : List Nat) (parts : List Part) : Nat :=
  heightOf (heightOf (parts.map (·.height)) :: branches)

/-- The parts, last one first, after a sign of repetition. -/
def repeatLast : List Part → Option (List Part)
  | part :: parts => if part.repeats then some (⟨part.height + 1, true⟩ :: parts) else none
  | [] => none

/-- The characters after the sign that makes a repetition as short as can be, if there is one. -/
def skipLazy : List Char → List Char
  | '?' :: rest => rest
  | rest => rest

/-- The names of groups together with that of one more, which is not among them. -/
def addName (names : List (List Char)) : Option (List Char) → Option (List (List Char))
  | none => some names
  | some name => if names.contains name then none else some (name :: names)

/-- A part in front that holds no other, and what follows it. -/
def readLeaf (mode : Mode) : List Char → Option (List Char)
  | '.' :: rest => if mode.ofCharacters then some rest else none
  | '^' :: rest | '$' :: rest => some rest
  | '\x7b' :: _ => none
  | cs =>
    match readAtom mode cs with
    | some (atom, rest) => if atom.isAdmitted mode then some rest else none
    | none => none

/-- The alternatives up to the end of a group or of the text, after those whose heights are given
    and after parts of one more, with the names of the groups so far: how high they are built, all
    names, and what follows them. -/
def readBranches (fuel : Nat) (mode : Mode) (names : List (List Char)) (branches : List Nat)
    (parts : List Part) (cs : List Char) : Option (Nat × List (List Char) × List Char) :=
  match fuel with
  | 0 => none
  | fuel + 1 =>
    match mode.skip cs with
    | [] => some (branchesHeight branches parts, names, [])
    | ')' :: rest => some (branchesHeight branches parts, names, ')' :: rest)
    | '|' :: rest =>
      readBranches fuel mode names (heightOf (parts.map (·.height)) :: branches) [] rest
    | '(' :: rest =>
      match Opening.read mode rest with
      | none => none
      | some (.flags mode, rest) =>
        readBranches fuel mode names branches (⟨0, false⟩ :: parts) rest
      | some (.group inner name, rest) =>
        match addName names name with
        | none => none
        | some names =>
          match readBranches fuel inner names [] [] rest with
          | some (height, names, ')' :: rest) =>
            readBranches fuel mode names branches (⟨height + 1, true⟩ :: parts) rest
          | _ => none
    | '[' :: rest =>
      match readNegation mode rest with
      | none => none
      | some rest =>
        match readClass fuel mode .start none [] rest with
        | some (height, rest) =>
          readBranches fuel mode names branches (⟨height + 1, true⟩ :: parts) rest
        | none => none
    | '*' :: rest | '+' :: rest | '?' :: rest =>
      match repeatLast parts with
      | some parts => readBranches fuel mode names branches parts (skipLazy rest)
      | none => none
    | cs =>
      match readLeaf mode cs with
      | some rest => readBranches fuel mode names branches (⟨0, true⟩ :: parts) rest
      | none => none

/-- How high a pattern may be built. -/
def heightLimit : Nat := 250

/-- Whether characters are a pattern. -/
def isValid (cs : List Char) : Bool :=
  match readBranches (cs.length + 1) {} [] [] [] cs with
  | some (height, _, []) => height ≤ heightLimit
  | _ => false

end Bedspace.Pattern
