import Bedspace.Estate.Import
import Bedspace.Json.Value
import Bedspace.Search.Basic
import Bedspace.Settings.Basic

/-!
# Failures of the whole program

What ends the program with a message, from whatever part it comes; the message names the part
(`Failure.message`). Given as an answer, a failure in what was asked for has another status than one
in the program itself (`Failure.status`).
-/

namespace Bedspace

/-- Why the program ends. -/
inductive Failure where
  | settings (error : SettingsError)
  | logFilter (value : String)
  | io (reason : String)
  | server (reason : String)
  | estateImport (error : ImportError)
  | store (error : StoreError)
  | search (error : BedSearchError)
  deriving DecidableEq

namespace Failure

/-- The wording of a failure. -/
def message : Failure → String
  | settings error => "configuration error: " ++ error.message
  | logFilter value =>
    "telemetry error: invalid log level/filter '" ++ value ++ "': unable to build EnvFilter"
  | io reason => "io error: " ++ reason
  | server reason => "server error: " ++ reason
  | estateImport error => "estate import error: " ++ error.message
  | store error => "repository error: " ++ error.message
  | search error => "search rejected: " ++ error.message

/-- The status of an answer that tells of a failure. -/
def status : Failure → Nat
  | estateImport _ => 400
  | search _ => 400
  | _ => 500

/-- The body of an answer that tells of a failure. -/
def json (failure : Failure) : Json := .object [("error", .text failure.message)]

end Failure

end Bedspace
