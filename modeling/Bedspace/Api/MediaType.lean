import Bedspace.Text.LowerCase

/-!
# Media types

A media type is written as a type, a slash and a subtype, and after them parameters, each with a
semicolon in front: a name, an equals sign and a value, which may stand in quotes. A value in quotes
has at least one character, so a quote right after the opening one belongs to the value. The part of
a subtype after its last plus sign is its suffix.

* `isJson` says whether a text is a media type whose content is JSON: of type `application`, with
  `json` as its subtype or as its suffix. Case does not matter.
-/

namespace Bedspace.MediaType

open Text

/-- Whether a character can be part of a name. -/
def isNameChar (c : Char) : Bool :=
  c.isAlphanum || "!#$%&'*+-.^_|~\x60".toList.contains c

/-- Whether a character can stand between quotes. -/
def isQuotedChar (c : Char) : Bool := 0x20 ≤ c.toNat && c.toNat ≤ 0x7E

/-- The characters before the last plus sign and after it, if there is one past the start. -/
def splitSuffix (subtype : List Char) : List Char × Option (List Char) :=
  let suffix := subtype.reverse.takeWhile (· ≠ '+')
  let front := subtype.reverse.drop (suffix.length + 1)
  if front.isEmpty then (subtype, none) else (front.reverse, some suffix.reverse)

/-- What follows a value in quotes, its opening quote being read, and the semicolon after it. The
    first character is part of the value whatever it is. -/
def skipQuoted : List Char → Option (List Char)
  | [] => none
  | first :: cs =>
    match cs.span fun c => isQuotedChar c && c ≠ '"' with
    | (_, '"' :: rest) =>
      if !isQuotedChar first then none
      else
        match rest.dropWhile (· = ' ') with
        | [] => some []
        | ';' :: rest => some rest
        | _ => none
    | _ => none

/-- What follows a value and its semicolon. -/
def skipValue : List Char → Option (List Char)
  | '"' :: cs => skipQuoted cs
  | cs =>
    match cs.span isNameChar with
    | (_, []) => some []
    | (_ :: _, ';' :: rest) => some rest
    | _ => none

/-- Whether parameters are in order. -/
def areParameters (fuel : Nat) (cs : List Char) : Bool :=
  match fuel with
  | 0 => false
  | fuel + 1 =>
    match cs.dropWhile (· = ' ') with
    | [] => true
    | cs =>
      match cs.span isNameChar with
      | (_ :: _, '=' :: rest) =>
        match skipValue rest with
        | some rest => areParameters fuel rest
        | none => false
      | _ => false

/-- Whether a subtype tells of JSON. -/
def isJsonSubtype (subtype : List Char) : Bool :=
  let (front, suffix) := splitSuffix subtype
  front = "json".toList || suffix = some "json".toList

/-- Whether a text is a media type whose content is JSON. -/
def isJson (s : String) : Bool :=
  match (asciiLower s).toList.span (· ≠ '/') with
  | (kind, '/' :: rest) =>
    let (subtype, parameters) := rest.span isNameChar
    kind = "application".toList && isJsonSubtype subtype &&
      match parameters with
      | [] => true
      | ';' :: cs => areParameters (cs.length + 1) cs
      | _ => false
  | _ => false

end Bedspace.MediaType
