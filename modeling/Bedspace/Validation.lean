/-!
# Parameters of a request that are not valid

A request may break several rules at once; each is reported with the place of the parameter in the
request and a word for the rule, in the order in which the rules are checked.
-/

namespace Bedspace

/-- A rule that a parameter breaks. -/
structure InvalidParam where
  propertyName : String
  errorType : String
  deriving DecidableEq, Repr

/-- The broken rules of a request; with none of them it is valid. -/
abbrev InvalidParams := List InvalidParam

namespace InvalidParams

/-- The rule `errorType` for a parameter, if it is broken. -/
def noteIf (broken : Bool) (propertyName errorType : String) : InvalidParams :=
  if broken then [⟨propertyName, errorType⟩] else []

@[simp] theorem noteIf_eq_nil {broken : Bool} {propertyName errorType : String} :
    noteIf broken propertyName errorType = [] ↔ broken = false := by
  cases broken <;> simp [noteIf]

/-- Whether a rule is among the broken ones. -/
def has (params : InvalidParams) (propertyName errorType : String) : Bool :=
  params.contains ⟨propertyName, errorType⟩

/-- The rules as one line. -/
def message (params : InvalidParams) : String :=
  "invalid request parameters: "
    ++ ", ".intercalate (params.map fun p => p.propertyName ++ " (" ++ p.errorType ++ ")")

end InvalidParams

end Bedspace
