/-!
# Problems in records

A record that arrives as JSON is checked field by field.  Each fault becomes a
problem: the path to the offending value and a cause.  All problems of a record
are reported together, in the order of its fields.
-/

namespace Parley

/-- A step on the way to a value: a member of an object or an item of a list. -/
inductive PathStep
  | field (name : String)
  | item (index : Nat)
  deriving Repr, DecidableEq

/-- What is wrong with a value. -/
inductive Cause
  | malformed
  | missing
  | notText
  | notList
  | notObject
  /-- The value given for a record of the named kind is no object. -/
  | notRecord (kind : String)
  | notRole
  | emptyText
  | emptyList
  | notPositive
  | notNumber
  | unreadableNumber
  | notFlag
  | unreadableFlag
  /-- A rule of the field itself refuses the value. -/
  | refused (reason : String)
  /-- Fields cannot be assigned after the record was built. -/
  | frozen
  deriving Repr, DecidableEq

/-- A fault of a record. -/
structure Problem where
  path : List PathStep
  cause : Cause
  deriving Repr, DecidableEq

/-- The text of a step. -/
def PathStep.text : PathStep → String
  | field name => name
  | item index => toString index

/-- The sentence that describes a cause. -/
def Cause.message : Cause → String
  | malformed => "Invalid JSON"
  | missing => "Field required"
  | notText => "Input should be a valid string"
  | notList => "Input should be a valid array"
  | notObject => "Input should be an object"
  | notRecord kind => "Input should be a valid dictionary or instance of " ++ kind
  | notRole => "Input should be 'user', 'assistant' or 'system'"
  | emptyText => "String should have at least 1 character"
  | emptyList => "List should have at least 1 item after validation, not 0"
  | notPositive => "Input should be greater than 0"
  | notNumber => "Input should be a valid number"
  | unreadableNumber => "Input should be a valid number, unable to parse string as a number"
  | notFlag => "Input should be a valid boolean"
  | unreadableFlag => "Input should be a valid boolean, unable to interpret input"
  | refused reason => "Value error, " ++ reason
  | frozen => "Instance is frozen"

/-- The short code of a cause. -/
def Cause.code : Cause → String
  | malformed => "json_invalid"
  | missing => "missing"
  | notText => "string_type"
  | notList => "list_type"
  | notObject => "model_type"
  | notRecord _ => "model_type"
  | notRole => "literal_error"
  | emptyText => "string_too_short"
  | emptyList => "too_short"
  | notPositive => "greater_than"
  | notNumber => "float_type"
  | unreadableNumber => "float_parsing"
  | notFlag => "bool_type"
  | unreadableFlag => "bool_parsing"
  | refused _ => "value_error"
  | frozen => "frozen_instance"

namespace Problem

/-- The path with its steps separated by points. -/
def location (p : Problem) : String :=
  String.intercalate "." (p.path.map PathStep.text)

/-- The problem as one line; a problem of the whole record is filed under `config`. -/
def line (p : Problem) : String :=
  (if p.location.isEmpty then "config" else p.location) ++ ": " ++ p.cause.message

/-- Several problems on one line. -/
def summary (problems : List Problem) : String :=
  String.intercalate "; " (problems.map line)

/-- How many problems a record of the named kind has, as a sentence. -/
def headline (kind : String) (problems : List Problem) : String :=
  toString problems.length ++
    (if problems.length = 1 then " validation error for " else " validation errors for ") ++ kind

/-- Moves a problem one step further from the root of the record. -/
def under (step : PathStep) (p : Problem) : Problem :=
  { p with path := step :: p.path }

/-- A problem at the place under check. -/
def here (cause : Cause) : Problem :=
  ⟨[], cause⟩

end Problem

end Parley
