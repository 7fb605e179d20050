import Bedspace.Decimal.Read
import Bedspace.Settings.Pattern
import Bedspace.Text.Alphanumeric
import Bedspace.Text.Blank
import Bedspace.Text.LowerCase
import Bedspace.Text.Number

/-!
# Filters for the log

A filter is a list of directives with commas between them, some of which may be empty. A directive
is a level or a target, and after it or in its place a span in brackets; an equals sign with a level
may follow. A span has a name, which may be empty, and may have one field in braces, which has a
name and may have a value after an equals sign: a number or a pattern.

* `LogFilter.isValid` says whether a text is such a list;
* a target begins with a letter, a digit or one of three signs and goes on with anything, so a word
  that is no level is a target;
* blanks around a directive count for nothing for its form. Where its pieces are is counted in bytes
  from its first character that is not blank, but they are cut out of the part of the list with all
  of its blanks (`cut`): blanks in front move each piece back by as many bytes;
* so a level after an equals sign stands without any blanks around the directive, because its piece
  would begin with the equals sign or end with a blank.
-/

namespace Bedspace.LogFilter

open Text

/-! ## 1. Levels, targets and fields -/

/-- The names of levels. -/
def levels : List String := ["trace", "debug", "info", "warn", "error", "off"]

/-- Whether a text is a level: a name in any case, or a number up to five. -/
def isLevel (s : String) : Bool := levels.contains (asciiLower s) || (readNat 6 s).isSome

/-- Whether a directive without a span in front can begin with a character. -/
def isTargetStart (c : Char) : Bool := ['-', ':', '_'].contains c || isAlphanumeric c

/-- Whether characters are the value of a field. -/
def isFieldValue (cs : List Char) : Bool :=
  (Decimal.readFloat (String.ofList cs)).isSome || Pattern.isValid cs

/-- Whether characters are a field of a span. What stands after a second equals sign is not looked
    at. -/
def isField (cs : List Char) : Bool :=
  match cs with
  | [] => false
  | cs =>
    match cs.splitOn '=' with
    | _ :: value :: _ => isFieldValue value
    | _ => true

/-! ## 2. Pieces -/

/-- The number of bytes of characters. -/
def byteLength : List Char → Nat
  | [] => 0
  | c :: cs => c.utf8Size + byteLength cs

/-- The characters that take up so many bytes in front, and the others. There is no result in the
    middle of a character, or past the end. -/
def splitBytes (bytes : Nat) : List Char → Option (List Char × List Char)
  | [] => if bytes = 0 then some ([], []) else none
  | c :: cs =>
    if bytes = 0 then some ([], c :: cs)
    else if bytes < c.utf8Size then none
    else (splitBytes (bytes - c.utf8Size) cs).map fun (front, rest) => (c :: front, rest)

/-- A piece of characters, which begins at some byte and has the length of other characters. -/
def cut (whole : List Char) (start : Nat) (piece : List Char) : Option (List Char) := do
  let (_, rest) ← splitBytes start whole
  let (front, _) ← splitBytes (byteLength piece) rest
  some front

/-! ## 3. Directives -/

/-- Whether characters are an equals sign with a level or nothing after it; `bare` says that there
    are no blanks around the directive. -/
def isLevelPart (bare : Bool) : List Char → Bool
  | '=' :: level => bare && (level.isEmpty || isLevel (String.ofList level))
  | _ => false

/-- Whether characters are what may follow a span. -/
def isAfterSpan (bare : Bool) (cs : List Char) : Bool := cs.isEmpty || isLevelPart bare cs

/-- Whether characters are a span after its opening bracket, and what may follow it. They begin at
    some byte of a directive, and the pieces are cut out of `whole`. -/
def isSpan (whole : List Char) (bare : Bool) (start : Nat) (cs : List Char) : Bool :=
  let isName (c : Char) : Bool := c ≠ ']' && c ≠ '\x7b'
  let name := cs.takeWhile isName
  (cut whole start name).isSome &&
    match cs.dropWhile isName with
    | ']' :: rest => isAfterSpan bare rest
    | '\x7b' :: rest =>
      let field := rest.takeWhile (· ≠ '\x7d')
      (cut whole (start + byteLength name + 1) field).any isField &&
        match rest.dropWhile (· ≠ '\x7d') with
        | '\x7d' :: ']' :: after => isAfterSpan bare after
        | _ => false
    | _ => false

/-- Whether characters are a directive. -/
def isDirective (whole : List Char) : Bool :=
  let inner := trimChars whole
  let bare := inner.length = whole.length
  let isTarget (c : Char) : Bool := c ≠ '[' && c ≠ '='
  match inner with
  | [] => false
  | '[' :: rest => isSpan whole bare 1 rest
  | c :: rest =>
    isTargetStart c &&
      match rest.dropWhile isTarget with
      | [] => true
      | '[' :: span =>
        let target := c :: rest.takeWhile isTarget
        (cut whole 0 target).isSome && isSpan whole bare (byteLength target + 1) span
      | rest => isLevelPart bare rest

/-- Whether a text is a filter. -/
def isValid (s : String) : Bool :=
  (s.toList.splitOn ',').all fun cs => cs.isEmpty || isDirective cs

end Bedspace.LogFilter
