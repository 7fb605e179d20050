import Bedspace.Decimal.Read
import Bedspace.Settings.Address
import Bedspace.Settings.VariableFile

/-!
# Settings

The program is set up by variables: where it listens, what it logs, how far it searches by default,
how long pages are and which files the estate comes from. A variable that is not set has a default.

* `Settings.load` reads the variables; the first one with a value that cannot be used, in the order
  port, distance, size of pages, is the answer (`SettingsError`);
* whether the host has an address is looked at only when it is needed
  (`Settings.socketAddress`).
-/

namespace Bedspace

open Text

/-- What the program runs for. -/
inductive Stage where
  | development
  | test
  | production
  deriving DecidableEq, Repr

/-- The stage that a text means: any but a few words mean development. -/
def Stage.parse (raw : String) : Stage :=
  match asciiLower (trim raw) with
  | "prod" | "production" => .production
  | "test" | "ci" => .test
  | _ => .development

/-- The name of a stage. -/
def Stage.label : Stage → String
  | .development => "Development"
  | .test => "Test"
  | .production => "Production"

/-- A setting that cannot be used. -/
inductive SettingsError where
  | invalidPort
  | invalidHost
  | invalidSearchDistance
  | invalidPageSize
  deriving DecidableEq, Repr

/-- The wording for a setting that cannot be used. -/
def SettingsError.message : SettingsError → String
  | .invalidPort => "APP_PORT must be a valid u16"
  | .invalidHost => "APP_HOST must parse to an IPv4 or IPv6 address"
  | .invalidSearchDistance => "APP_SEARCH_MAX_DISTANCE_MILES must be a positive number of miles"
  | .invalidPageSize => "APP_DEFAULT_PAGE_SIZE must be a positive integer"

/-- How far is searched and how long pages are where a request does not say. -/
structure SearchSettings where
  maxDistanceMiles : Float
  defaultPageSize : Nat

/-- Fifty miles and ten results. -/
def SearchSettings.default : SearchSettings := ⟨50.0, 10⟩

/-- The files that the estate and the postcode districts come from. -/
structure EstateSources where
  estate : Option String
  districts : Option String
  deriving DecidableEq, Repr

/-- All settings. -/
structure Settings where
  stage : Stage
  host : String
  port : Nat
  logLevel : String
  search : SearchSettings
  sources : EstateSources

/-- A distance that can be searched within. -/
def readDistance (raw : String) : Option Float :=
  (Decimal.readFloat (trim raw)).filter fun miles => miles.isFinite && miles > 0.0

/-- A size that pages can have. -/
def readPageSize (raw : String) : Option Nat := (readNat limit32 (trim raw)).filter (0 < ·)

namespace Settings

/-- The value of a setting: that of its variable, if it is set and can be used, or a default. -/
def setting {α : Type} (env : Variables) (name : String) (parse : String → Option α)
    (fallback : α) (error : SettingsError) : Except SettingsError α :=
  match env.lookup name with
  | none => .ok fallback
  | some raw =>
    match parse raw with
    | some a => .ok a
    | none => .error error

/-- The settings that variables give. -/
def load (env : Variables) : Except SettingsError Settings := do
  let text (name fallback : String) : String := (env.lookup name).getD fallback
  let port ← setting env "APP_PORT" (readNat limit16) 3000 .invalidPort
  let miles ← setting env "APP_SEARCH_MAX_DISTANCE_MILES" readDistance
    SearchSettings.default.maxDistanceMiles .invalidSearchDistance
  let size ← setting env "APP_DEFAULT_PAGE_SIZE" readPageSize
    SearchSettings.default.defaultPageSize .invalidPageSize
  pure
    { stage := Stage.parse (text "APP_ENV" "development")
      host := text "APP_HOST" "127.0.0.1"
      port
      logLevel := text "APP_LOG_LEVEL" "info"
      search := ⟨miles, size⟩
      sources :=
        ⟨env.lookup "APP_ESTATE_CSV", env.lookup "APP_POSTCODE_DISTRICTS_CSV"⟩ }

/-- Where the program listens. -/
def socketAddress (settings : Settings) : Except SettingsError SocketAddress :=
  match HostAddress.ofHost? settings.host with
  | some host => .ok ⟨host, settings.port⟩
  | none => .error .invalidHost

end Settings

end Bedspace
