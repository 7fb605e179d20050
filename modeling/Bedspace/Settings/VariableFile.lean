import Bedspace.Text.Alphanumeric
import Bedspace.Text.Blank

/-!
# Files of variables

A file may give values to variables: `NAME=value` on a line of its own, with `export` in front or
not. A variable that has a value already keeps it.

* a value ends at a blank, after which only a comment may follow. In single quotes everything
  stands for itself; in double quotes and outside a backslash takes away the meaning of the next
  character, and `$NAME` and `$` with a name in braces stand for the value of a variable, where a
  name without braces goes on over letters and digits of any script;
* a quoted value may go on over several lines;
* at the first line that is not in order reading stops, and the lines before it count.
-/

namespace Bedspace

open Text

/-- Variables with their values. -/
abbrev Variables := List (String × String)

namespace VariableFile

/-! ## 1. Lines -/

/-- Where in a line a character stands, as far as it matters for where the line ends. -/
inductive LineState where
  | plain
  | blank
  | escape
  | weak
  | weakEscape
  | strong
  | strongEscape
  deriving DecidableEq, Repr

/-- What a character outside quotes leads to. -/
def LineState.opening (c : Char) : LineState :=
  if c = '\\' then .escape
  else if c = '"' then .weak
  else if c = '\'' then .strong
  else .plain

/-- What a character leads to. -/
def LineState.next (state : LineState) (c : Char) : LineState :=
  match state with
  | .plain => if isBlank c && c ≠ '\n' && c ≠ '\r' then .blank else opening c
  | .blank => opening c
  | .escape => .plain
  | .weak => if c = '\\' then .weakEscape else if c = '"' then .plain else .weak
  | .weakEscape => .weak
  | .strong => if c = '\\' then .strongEscape else if c = '\'' then .plain else .strong
  | .strongEscape => .strong

/-- The characters up to the first line feed, which is the last of them, and the others. -/
def spanLine : List Char → List Char × List Char
  | [] => ([], [])
  | '\n' :: rest => (['\n'], rest)
  | c :: rest =>
    let (line, others) := spanLine rest
    (c :: line, others)

/-- The state after a line, and the part of it before a comment if it has one. -/
def scanLine (state : LineState) : List Char → LineState × Option (List Char)
  | [] => (state, none)
  | c :: rest =>
    if state = .blank && c = '#' then (.plain, some [])
    else
      let (last, comment) := scanLine (state.next c) rest
      (last, comment.map (c :: ·))

/-- A line without its end. -/
def chomp (line : List Char) : List Char :=
  match line.reverse with
  | '\n' :: '\r' :: rest => rest.reverse
  | '\n' :: rest => rest.reverse
  | _ => line

/-- Whether a line holds a comment only. -/
def isComment (line : List Char) : Bool := (trimStart line).head? = some '#'

/-- The line in front, which goes on as long as a quote is open, and what follows it; there is no
    line where a quote stays open up to the end. -/
def readLine (fuel : Nat) (before : List Char) (state : LineState) (cs : List Char) :
    Option (List Char × List Char) :=
  match fuel with
  | 0 => none
  | fuel + 1 =>
    match spanLine cs with
    | ([], _) => none
    | (line, rest) =>
      if isComment (before ++ line) then some ([], rest)
      else
        match scanLine state line with
        | (_, some beforeComment) => some (before ++ beforeComment, rest)
        | (.plain, none) => some (chomp (before ++ line), rest)
        | (state, none) => readLine fuel (before ++ line) state rest

/-! ## 2. Values -/

/-- Where in a value a character stands. A substitution remembers the name read so far. -/
inductive ValueState where
  | plain
  | weak
  | strong
  | escape (weak : Bool)
  | substitution (weak : Bool) (name : List Char)
  | braced (weak : Bool) (name : List Char)
  | ended
  deriving DecidableEq, Repr

/-- Outside a substitution, in double quotes or not. -/
def ValueState.base (weak : Bool) : ValueState := if weak then .weak else .plain

/-- The character of an escape. -/
def unescape (c : Char) : Option Char :=
  if ['\\', '\'', '"', '$', ' '].contains c then some c else if c = 'n' then some '\n' else none

/-- The value of the variable with a name, empty if there is none. A variable and its value are one
    text with an equals sign between them: a name that holds such a sign itself stands for the rest
    of a value. -/
def valueOf (env : Variables) (name : List Char) : List Char :=
  let valueIn (entry : String × String) : Option (List Char) :=
    (name ++ ['=']).isPrefixOf? (entry.1.toList ++ '=' :: entry.2.toList)
  if name.isEmpty then [] else (env.findSome? valueIn).getD []

/-- One character of a value outside quotes. -/
def plainStep (done : List Char) (c : Char) : Option (List Char × ValueState) :=
  if c = '$' then some (done, .substitution false [])
  else if c = '\'' then some (done, .strong)
  else if c = '"' then some (done, .weak)
  else if c = '\\' then some (done, .escape false)
  else if c = ' ' || c = '\t' then some (done, .ended)
  else some (done ++ [c], .plain)

/-- One character of a value in double quotes. -/
def weakStep (done : List Char) (c : Char) : List Char × ValueState :=
  if c = '$' then (done, .substitution true [])
  else if c = '"' then (done, .plain)
  else if c = '\\' then (done, .escape true)
  else (done ++ [c], .weak)

/-- One character of the name of a variable. The one after the name stands for itself. -/
def substitutionStep (env : Variables) (done : List Char) (weak : Bool) (name : List Char)
    (c : Char) : List Char × ValueState :=
  if isAlphanumeric c then (done, .substitution weak (name ++ [c]))
  else if c = '\x7b' && name.isEmpty then (done, .braced weak [])
  else
    let done := done ++ valueOf env name
    if c = '$' then (done, .substitution weak []) else (done ++ [c], .base weak)

/-- One character of a name in braces. -/
def bracedStep (env : Variables) (done : List Char) (weak : Bool) (name : List Char)
    (c : Char) : List Char × ValueState :=
  if c = '\x7d' then (done ++ valueOf env name, .base weak)
  else (done, .braced weak (name ++ [c]))

/-- One character of a value; there is no result where it is not in order. -/
def valueStep (env : Variables) (done : List Char) (state : ValueState) (c : Char) :
    Option (List Char × ValueState) :=
  match state with
  | .plain => plainStep done c
  | .weak => some (weakStep done c)
  | .strong => some (if c = '\'' then (done, .plain) else (done ++ [c], .strong))
  | .escape weak => (unescape c).map fun c => (done ++ [c], .base weak)
  | .substitution weak name => some (substitutionStep env done weak name c)
  | .braced weak name => some (bracedStep env done weak name c)
  | .ended => if c = ' ' || c = '\t' then some (done, .ended) else none

/-- The value of the characters after the equals sign, up to a comment. -/
def readValue (env : Variables) (done : List Char) (state : ValueState) :
    List Char → Option (List Char)
  | [] =>
    match state with
    | .weak | .strong | .braced _ _ => none
    | .substitution true _ | .escape true => none
    | .substitution false name => some (done ++ valueOf env name)
    | _ => some done
  | c :: rest =>
    if state = .ended && c = '#' then some done
    else
      match valueStep env done state c with
      | some (done, state) => readValue env done state rest
      | none => none

/-! ## 3. Definitions -/

/-- Whether a character can be first in a name. -/
def isNameStart (c : Char) : Bool := c.isAlpha || c = '_'

/-- Whether a character can be in a name. -/
def isNameChar (c : Char) : Bool := c.isAlphanum || c = '_' || c = '.'

/-- A name in front, and what follows it after blanks. -/
def readName : List Char → Option (List Char × List Char)
  | [] => none
  | c :: rest =>
    if isNameStart c then
      some ((c :: rest).takeWhile isNameChar, trimStart ((c :: rest).dropWhile isNameChar))
    else none

/-- What follows an equals sign in front. -/
def skipEquals : List Char → Option (List Char)
  | '=' :: rest => some (trimStart rest)
  | _ => none

/-- A name with the characters of its value. -/
def splitDefinition (cs : List Char) : Option (List Char × List Char) := do
  let (name, rest) ← readName cs
  match skipEquals rest with
  | some value => some (name, value)
  | none =>
    if name = "export".toList then
      let (name, rest) ← readName rest
      let value ← skipEquals rest
      some (name, value)
    else none

/-- What a line defines, if it defines anything; there is no result where it is not in order. -/
def readDefinition (env : Variables) (line : List Char) : Option (Option (String × String)) :=
  let cs := trimChars line
  if cs.isEmpty || cs.head? = some '#' then some none
  else do
    let (name, value) ← splitDefinition cs
    let value ←
      if value.head? = some '#' then some [] else readValue env [] .plain value
    some (some (String.ofList name, String.ofList value))

/-- Gives a variable a value, unless it has one. -/
def define (env : Variables) (name value : String) : Variables :=
  if (env.lookup name).isSome then env else env ++ [(name, value)]

/-- The variables after the lines of a file, each of which may use the values of those before it. -/
def readLines (fuel : Nat) (env : Variables) (cs : List Char) : Variables :=
  match fuel with
  | 0 => env
  | fuel + 1 =>
    match readLine (cs.length + 1) [] .plain cs with
    | none => env
    | some (line, rest) =>
      match readDefinition env line with
      | none => env
      | some none => readLines fuel env rest
      | some (some (name, value)) => readLines fuel (define env name value) rest

/-- The variables together with the ones that a file defines. A mark of the byte order in front is
    skipped. -/
def extend (env : Variables) (file : String) : Variables :=
  let cs :=
    match file.toList with
    | '\ufeff' :: cs => cs
    | cs => cs
  readLines (cs.length + 1) env cs

end VariableFile

end Bedspace
