import Parley.Json.Value
import Parley.Record.Problem
import Parley.Number.Read

/-!
# Checking JSON values

A check turns a JSON value into a value of a type or into the list of its
problems.  Checks combine so that the problems of all parts are reported: `both`
runs two checks side by side, and `items` one check on every item of a list.
-/

namespace Parley

/-- The outcome of a check. -/
abbrev Checked (α : Type) := Except (List Problem) α

namespace Checked

variable {α β γ : Type}

/-- Fails with one problem at this place. -/
def fail (cause : Cause) : Checked α :=
  .error [Problem.here cause]

/-- Combines two outcomes; if both failed, the problems of both count. -/
def both (f : α → β → γ) : Checked α → Checked β → Checked γ
  | .ok a, .ok b => .ok (f a b)
  | .ok _, .error q => .error q
  | .error p, .ok _ => .error p
  | .error p, .error q => .error (p ++ q)

/-- The problems of a part, seen from one step above it. -/
def under (step : PathStep) : Checked α → Checked α
  | .ok a => .ok a
  | .error problems => .error (problems.map (Problem.under step))

/-- A text. -/
def text : Json → Checked String
  | .string s => .ok s
  | _ => fail .notText

/-- A text with at least one character. -/
def nonEmptyText (value : Json) : Checked String :=
  match text value with
  | .ok s => if s.isEmpty then fail .emptyText else .ok s
  | failed => failed

/-- Nothing, or a value that passes the check. -/
def nullable (check : Json → Checked α) : Json → Checked (Option α)
  | .null => .ok none
  | value => (check value).map some

/-- Checks items one by one, counting from a first index. -/
def itemsFrom (check : Json → Checked α) : Nat → List Json → Checked (List α)
  | _, [] => .ok []
  | index, value :: others =>
      both List.cons (under (.item index) (check value)) (itemsFrom check (index + 1) others)

/-- A list whose items pass the check. -/
def items (check : Json → Checked α) : Json → Checked (List α)
  | .array values => itemsFrom check 0 values
  | _ => fail .notList

/-- A list with at least one item. -/
def nonEmptyList (values : List α) : Checked (List α) :=
  if values.isEmpty then fail .emptyList else .ok values

/-- The members of an object. -/
def members (otherwise : Cause) : Json → Checked (List (String × Json))
  | .object found => .ok found
  | _ => fail otherwise

/-- A member that has to be there. -/
def required (name : String) (check : Json → Checked α) (found : List (String × Json)) :
    Checked α :=
  under (.field name) <|
    match Json.member? name found with
    | some value => check value
    | none => fail .missing

/-- A member that may be left out. -/
def optional (name : String) (default : α) (check : Json → Checked α)
    (found : List (String × Json)) : Checked α :=
  under (.field name) <|
    match Json.member? name found with
    | some value => check value
    | none => .ok default

/-- The words for yes and no. -/
def flagWord? (s : String) : Option Bool :=
  let word := String.ofList (lowerAscii s.toList)
  if ["1", "true", "t", "yes", "y", "on"].contains word then some true
  else if ["0", "false", "f", "no", "n", "off"].contains word then some false
  else none

/-- The numbers for yes and no. -/
def flagNumber? (n : Int) : Option Bool :=
  if n = 1 then some true else if n = 0 then some false else none

/-- A yes or no, as a truth value, a number or a word. -/
def flag : Json → Checked Bool
  | .bool b => .ok b
  | .integer n => (flagNumber? n).elim (fail .unreadableFlag) .ok
  | .float x =>
      match x.toInt? with
      | some n => (flagNumber? n).elim (fail .unreadableFlag) .ok
      | none => fail .notFlag
  | .string s => (flagWord? s).elim (fail .unreadableFlag) .ok
  | _ => fail .notFlag

/-- A number, as a number, a truth value or a text. -/
def number : Json → Checked Binary64
  | .integer n =>
      match Binary64.ofInt n with
      | .infinite _ => fail .notNumber
      | x => .ok x
  | .float x => .ok x
  | .bool b => .ok (Binary64.ofInt (if b then 1 else 0))
  | .string s => (fieldNumber s).elim (fail .unreadableNumber) .ok
  | _ => fail .notNumber

/-- A number greater than zero. -/
def positiveNumber (value : Json) : Checked Binary64 :=
  match number value with
  | .ok x => if x.isPositive then .ok x else fail .notPositive
  | failed => failed

@[simp]
theorem under_ok (step : PathStep) (a : α) : under step (.ok a) = .ok a := rfl

@[simp]
theorem both_ok (f : α → β → γ) (a : α) (b : β) : both f (.ok a) (.ok b) = .ok (f a b) := rfl

end Checked

end Parley
