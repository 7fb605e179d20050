/-!
# Options of a command

A command is followed by options, each written `--name value` or `--name=value`. A command has a
list of the options it knows (`OptionRule`).

* `readOptions` reads options up to the first word that is none. Only after an equals sign a value
  may begin with a dash; a dash alone is a value too;
* an option that is unknown, lacks its value, has a value that cannot be used or is given again
  although it counts once is a mistake, and so is any word after `--`;
* the request for help ends the reading at once.
-/

namespace Bedspace.CommandLine

/-- An option that a command knows. -/
structure OptionRule where
  name : String
  repeatable : Bool
  accepts : String → Bool

/-- An option that was given. -/
structure GivenOption where
  name : String
  value : String
  deriving DecidableEq, Repr

/-- Why the words of a command line are not a command. -/
inductive NoCommand where
  | helpWanted
  | mistake
  deriving DecidableEq, Repr

/-- The name of an option and its value, if one follows an equals sign. -/
def splitOption (cs : List Char) : String × Option String :=
  let name := cs.takeWhile (· ≠ '=')
  match cs.drop name.length with
  | '=' :: value => (String.ofList name, some (String.ofList value))
  | _ => (String.ofList name, none)

/-- Whether a word can be the value of the option before it. -/
def isValue (word : String) : Bool := word = "-" || word.toList.head? ≠ some '-'

/-- Takes an option in, after the ones given before it. -/
def takeOption (rules : List OptionRule) (given : List GivenOption) (name value : String) :
    Except NoCommand (List GivenOption) :=
  match rules.find? fun rule => rule.name = name with
  | none => .error .mistake
  | some rule =>
    if !rule.accepts value then .error .mistake
    else if !rule.repeatable && given.any (fun option => option.name = name) then .error .mistake
    else .ok (given ++ [⟨name, value⟩])

/-- Whether an option is one of those that a command knows. -/
def isKnown (rules : List OptionRule) (name : String) : Bool :=
  rules.any fun rule => rule.name = name

/-- Reads options, after the ones given before, up to a word that is none. `notices` are the names
    of options that ask for a text about the program itself. -/
def readOptions (rules : List OptionRule) (notices : List String) (given : List GivenOption) :
    List String → Except NoCommand (List GivenOption × List String)
  | [] => .ok (given, [])
  | word :: words =>
    match word.toList with
    | ['-'] => .ok (given, word :: words)
    | ['-', '-'] => if words.isEmpty then .ok (given, []) else .error .mistake
    | '-' :: '-' :: cs =>
      match splitOption cs with
      | (name, some value) =>
        match takeOption rules given name value with
        | .ok given => readOptions rules notices given words
        | .error e => .error e
      | (name, none) =>
        if notices.contains ("--" ++ name) then .error .helpWanted
        else
          match words with
          | [] => .error .mistake
          | value :: words =>
            if !isKnown rules name || !isValue value then .error .mistake
            else
              match takeOption rules given name value with
              | .ok given => readOptions rules notices given words
              | .error e => .error e
    | '-' :: c :: _ =>
      if notices.contains (String.ofList ['-', c]) then .error .helpWanted else .error .mistake
    | _ => .ok (given, word :: words)

/-- The values given for an option, in their order. -/
def valuesOf (given : List GivenOption) (name : String) : List String :=
  (given.filter fun option => option.name = name).map GivenOption.value

/-- The last value given for an option. -/
def lastValue (given : List GivenOption) (name : String) : Option String :=
  (valuesOf given name).getLast?

end Bedspace.CommandLine
