import Bedspace.Text.Blank

/-!
# How a stretch of a pattern is read

Letters between parentheses switch a pattern from one mode to another: `i` lets a letter stand for
both of its cases, `u` matches characters and not bytes, and `x` skips blanks and comments. A dash
turns the letters after it around. The other letters change what is matched, and not what is a
pattern.

* `Mode.set` is the mode after such letters, and `areFlags` says which letters are in order;
* `Mode.skip` takes off what the mode does not read;
* `Mode.admits` says which characters can be matched. There are no tables of cases, so nothing can
  be matched in both cases but ASCII bytes; and what is matched is text, in which no byte from 128
  on stands alone.
-/

namespace Bedspace.Pattern

open Text

/-- How a stretch of a pattern is read. -/
structure Mode where
  /-- A letter stands for both of its cases. -/
  foldsCase : Bool := false
  /-- Characters are matched, and not bytes. -/
  ofCharacters : Bool := true
  /-- Blanks and comments count for nothing. -/
  skipsBlanks : Bool := false
  deriving DecidableEq, Repr

/-- The characters after blanks and comments, each of which begins with a number sign and ends with
    the line. -/
def skipBlanks (inComment : Bool) : List Char → List Char
  | [] => []
  | c :: cs =>
    if inComment then skipBlanks (c ≠ '\n') cs
    else if c = '#' then skipBlanks true cs
    else if isBlank c then skipBlanks false cs
    else c :: cs

namespace Mode

/-! ## 1. Flags -/

/-- The letters of flags, and the dash between those to set and those to clear. -/
def flagChars : List Char := "imsUuRx-".toList

/-- Whether characters are flags: none comes twice, and the dash is not the last of them. -/
def areFlags (flags : List Char) : Bool :=
  flags.all flagChars.contains && flags.Nodup && flags.getLast? ≠ some '-'

/-- The mode after flags. -/
def set (mode : Mode) (flags : List Char) : Mode :=
  let switch (letter : Char) (before : Bool) : Bool :=
    if flags.contains letter then (flags.takeWhile (· ≠ '-')).contains letter else before
  { foldsCase := switch 'i' mode.foldsCase
    ofCharacters := switch 'u' mode.ofCharacters
    skipsBlanks := switch 'x' mode.skipsBlanks }

/-! ## 2. Blanks -/

/-- The characters that are read next. -/
def skip (mode : Mode) (cs : List Char) : List Char :=
  if mode.skipsBlanks then skipBlanks false cs else cs

/-- The character that decides about a dash in front of it. A comment counts for it from its first
    character that is not blank. -/
def peek (mode : Mode) (cs : List Char) : Option Char :=
  if mode.skipsBlanks then
    match trimStart cs with
    | '#' :: rest => (trimStart rest).head?
    | cs => cs.head?
  else cs.head?

/-! ## 3. What can be matched -/

/-- Whether a character can be matched, which `isByte` says to be written as a byte. -/
def admits (mode : Mode) (code : Nat) (isByte : Bool) : Bool :=
  if mode.ofCharacters then !mode.foldsCase else !isByte || code < 0x80

/-- Whether a character can be matched as a member of a class. -/
def admitsMember (mode : Mode) (code : Nat) : Bool :=
  if mode.ofCharacters then !mode.foldsCase else code < 0x80

/-- Whether a class with a name in colons can be matched, or all but its members. -/
def admitsNamed (mode : Mode) (isNegated : Bool) : Bool :=
  if mode.ofCharacters then !mode.foldsCase else !isNegated

/-- Whether a class with a letter for its name can be matched, or all but its members. Of the
    characters of any script there is no such class. -/
def admitsKind (mode : Mode) (isNegated : Bool) : Bool := !mode.ofCharacters && !isNegated

end Mode

end Bedspace.Pattern
