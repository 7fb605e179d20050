import Bedspace.CommandLine.Run

/-!
# The program

Carries out the command line it is called with. It reads the variables it knows and the files it is
told of; it answers no requests over the network by itself, so `serve` ends once everything that
comes before listening has gone well. It writes no log: of the log only its filter is here, which
has to be valid (`LogFilter.isValid`), and no measurements are taken.
-/

namespace Bedspace

/-- The names of the variables that set the program up. -/
def variableNames : List String := [
  "APP_ENV", "APP_HOST", "APP_PORT", "APP_LOG_LEVEL", "APP_SEARCH_MAX_DISTANCE_MILES",
  "APP_DEFAULT_PAGE_SIZE", "APP_ESTATE_CSV", "APP_POSTCODE_DISTRICTS_CSV", "RUST_LOG"]

/-- The variables that are set. -/
def variablesSet : IO Variables :=
  variableNames.filterMapM fun name => do
    let value ← IO.getEnv name
    pure (value.map fun value => (name, value))

/-- A reason with the number that the system has for it. -/
def systemReason (reason : String) (code : UInt32) : String :=
  reason ++ " (os error " ++ toString code ++ ")"

/-- Why a file cannot be opened. -/
def openingFault : IO.Error → String
  | .noFileOrDirectory _ code _ => systemReason "No such file or directory" code
  | .permissionDenied _ code reason => systemReason reason code
  | .invalidArgument _ code reason => systemReason reason code
  | .inappropriateType _ code reason => systemReason reason code
  | .resourceExhausted _ code reason => systemReason reason code
  | error => toString error

/-- The number that the system has for a folder in the place of a file. -/
def folderCode : UInt32 := 21

/-- The bytes of a file, or why it cannot be opened. A folder can be opened and holds none. -/
def fileContent (path : String) : IO (Except String (List UInt8)) := do
  try
    let bytes ← IO.FS.readBinFile path
    pure (.ok bytes.toList)
  catch error =>
    match error with
    | .inappropriateType name code reason =>
      if code = folderCode then pure (.ok [])
      else pure (.error (openingFault (.inappropriateType name code reason)))
    | error => pure (.error (openingFault error))

/-- What the program is carried out in. -/
def surroundings : IO (Surroundings IO) := do
  let env ← variablesSet
  pure
    { env
      fileBytes := fileContent
      listen := fun address _ _ =>
        pure (.error ("listening at " ++ address.text ++ " is not supported")) }

end Bedspace

open Bedspace in
/-- Carries out a command line and ends with its status. -/
def main (words : List String) : IO UInt32 := do
  let result ← CommandLine.run (← surroundings) words
  IO.print result.output
  IO.eprint result.complaint
  pure result.status.toUInt32
