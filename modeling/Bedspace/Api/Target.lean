import Bedspace.Text.Number
import Bedspace.Text.Utf8

/-!
# Targets of requests

A request is directed at a path, whose segments stand between slashes, and may carry a query: names
and values with `&` between the pairs and `=` within one. Any byte can be written as a percent sign
with two hexadecimal digits. In front there may be a scheme and the authority that is asked; an
authority can also stand alone, and then there is no path.

* `Target.ofText?` splits a text at its first question mark; a fragment after `#` is dropped, and
  characters that have to be written with a percent sign are refused;
* `isAuthority` says which texts can name an authority, which counts for nothing beyond that;
* `decodeSegment` gives the text of a segment, if its bytes are UTF-8;
* `Target.pairs` gives the names and values of the query; a plus sign stands for a blank there.
-/

namespace Bedspace

open Text

/-- Where a request is directed. -/
structure Target where
  /-- The segments of the path, as they were written; there are none where there is no path. -/
  segments : List String
  query : List Char
  deriving DecidableEq, Repr

namespace Target

/-! ## 1. Schemes and authorities -/

/-- Whether a character can be part of a scheme. -/
def isSchemeChar (c : Char) : Bool := c.isAlphanum || ['+', '-', '.', '~'].contains c

/-- The scheme in front and what follows it and its two slashes, if there is one. -/
def splitScheme (cs : List Char) : Option (List Char × List Char) :=
  match cs.dropWhile isSchemeChar with
  | ':' :: '/' :: '/' :: rest => some (cs.takeWhile isSchemeChar, rest)
  | _ => none

/-- Whether a character can be part of an authority, apart from the ones that part it. -/
def isAuthorityChar (c : Char) : Bool := c.isAlphanum || "!$&'()*+,-.;=_~".toList.contains c

/-- What was read of an authority. Colons and percent signs count from the last at sign or the
    last closing bracket on. -/
structure AuthorityState where
  colons : Nat
  percent : Bool
  opened : Bool
  closed : Bool
  afterAt : Bool

namespace AuthorityState

/-- Nothing is read yet. -/
def start : AuthorityState := ⟨0, false, false, false, false⟩

/-- Reads one character, if it can stand there. -/
def step (state : AuthorityState) (c : Char) : Option AuthorityState :=
  let state := { state with afterAt := c = '@' }
  match c with
  | ':' => if state.colons ≥ 8 then none else some { state with colons := state.colons + 1 }
  | '[' => if state.percent || state.opened then none else some { state with opened := true }
  | ']' =>
    if !state.opened || state.closed then none
    else some { state with closed := true, colons := 0, percent := false }
  | '@' => some { state with colons := 0, percent := false }
  | '%' => some { state with percent := true }
  | c => if isAuthorityChar c then some state else none

/-- Whether an authority can end here: with its bracket closed, one colon at most, something after
    the at sign and no percent sign but before it. -/
def isEnd (state : AuthorityState) : Bool :=
  state.opened == state.closed && state.colons ≤ 1 && !state.afterAt && !state.percent

end AuthorityState

/-- Whether characters name an authority. -/
def isAuthority (cs : List Char) : Bool :=
  !cs.isEmpty && (cs.foldlM AuthorityState.step .start).any AuthorityState.isEnd

/-! ## 2. Paths -/

/-- Whether a character may be written as it is in a path; outside ASCII all may. -/
def isPathChar (c : Char) : Bool :=
  let n := c.toNat
  n == 0x21 || n == 0x22 || (0x24 ≤ n && n ≤ 0x3B) || n == 0x3D || (0x40 ≤ n && n ≤ 0x5F) ||
    (0x61 ≤ n && n ≠ 0x7F)

/-- Whether a character may be written as it is in a query; outside ASCII all may. -/
def isQueryChar (c : Char) : Bool :=
  let n := c.toNat
  n == 0x21 || (0x24 ≤ n && n ≤ 0x3B) || n == 0x3D || (0x3F ≤ n && n ≠ 0x7F)

/-- The characters before a separator and after it. -/
def splitFirst (separator : Char) (cs : List Char) : List Char × List Char :=
  (cs.takeWhile (· ≠ separator), (cs.dropWhile (· ≠ separator)).drop 1)

/-- The target of a path with what follows it. An empty path is the one of a slash alone. -/
def ofPath? (cs : List Char) : Option Target :=
  let (whole, _) := splitFirst '#' cs
  let (path, query) := splitFirst '?' whole
  if path.all isPathChar && query.all isQueryChar then
    some ⟨((path.drop 1).splitOn '/').map String.ofList, query⟩
  else none

/-- The target without a path. -/
def pathless : Target := ⟨[], []⟩

/-- The most bytes that a target can be written with. -/
def lengthLimit : Nat := 65534

/-- The most bytes that a scheme can have. -/
def schemeLimit : Nat := 64

/-- The target that characters denote. -/
def ofChars? (cs : List Char) : Option Target :=
  match cs with
  | '/' :: _ => ofPath? cs
  | ['*'] => some pathless
  | cs =>
    match splitScheme cs with
    | none => if isAuthority cs then some pathless else none
    | some (scheme, rest) =>
      let isPathStart := fun c => ['/', '?', '#'].contains c
      if scheme.length ≤ schemeLimit && isAuthority (rest.takeWhile (!isPathStart ·)) then
        ofPath? (rest.dropWhile (!isPathStart ·))
      else none

/-- The target that a text denotes. -/
def ofText? (s : String) : Option Target :=
  if (Utf8.bytes s).length > lengthLimit then none else ofChars? s.toList

/-! ## 3. Percent signs -/

/-- The bytes of characters in which a percent sign with two hexadecimal digits is one byte. -/
def percentDecode : List Char → List UInt8
  | '%' :: a :: b :: rest =>
    match hexDigit a, hexDigit b with
    | some high, some low => UInt8.ofNat (high * 16 + low) :: percentDecode rest
    | _, _ => 0x25 :: percentDecode (a :: b :: rest)
  | c :: rest => Utf8.bytes c.toString ++ percentDecode rest
  | [] => []
termination_by cs => cs.length

/-- The text of a segment, if its bytes are UTF-8. -/
def decodeSegment (segment : String) : Option String :=
  (Utf8.decode (percentDecode segment.toList)).toOption

/-! ## 4. Queries -/

/-- The text of a name or a value in a query. -/
def decodeComponent (cs : List Char) : String :=
  Utf8.decodeLossy (percentDecode (cs.map fun c => if c = '+' then ' ' else c))

/-- The pairs of the query, in their order. -/
def pairs (target : Target) : List (String × String) :=
  ((target.query.splitOn '&').filter fun pair => !pair.isEmpty).map fun pair =>
    let (name, value) := splitFirst '=' pair
    (decodeComponent name, decodeComponent value)

end Target

end Bedspace
