import Parley.Number.Shown
import Parley.Text.Quoted

/-!
# JSON values

Whole numbers and fractions are told apart by how they are written.  The
members of an object keep the order in which their names were first seen, and a
name that occurs again replaces the value it had.
-/

namespace Parley

/-- A JSON value. -/
inductive Json
  | null
  | bool (value : Bool)
  | integer (value : Int)
  | float (value : Binary64)
  | string (value : String)
  | array (items : List Json)
  | object (members : List (String × Json))
  deriving Repr, Inhabited

namespace Json

/-- Sets a member of an object: in its old place if the name is known, at the end
otherwise. -/
def insertMember (name : String) (value : Json) :
    List (String × Json) → List (String × Json)
  | [] => [(name, value)]
  | member :: others =>
      if member.1 = name then (name, value) :: others
      else member :: insertMember name value others

/-- The value of a member. -/
def member? (name : String) : List (String × Json) → Option Json
  | [] => none
  | member :: others => if member.1 = name then some member.2 else member? name others

/-- Whether a value counts as absent where a default may stand in for it: nothing,
false, zero, or an empty text or container. -/
def isBlankValue : Json → Bool
  | null => true
  | bool value => !value
  | integer value => value == 0
  | float (.finite _ mantissa _) => mantissa == 0
  | float _ => false
  | string value => value.isEmpty
  | array items => items.isEmpty
  | object members => members.isEmpty

mutual

/-- The display form of a value, as messages about unexpected values show it. -/
def shown : Json → String
  | null => "None"
  | bool true => "True"
  | bool false => "False"
  | integer value => toString value
  | float value => value.shortest
  | string value => Text.quoted value
  | array items => "[" ++ shownItems items ++ "]"
  | object members => "\x7b" ++ shownMembers members ++ "\x7d"

/-- The items of a list, separated by commas. -/
def shownItems : List Json → String
  | [] => ""
  | [item] => shown item
  | item :: others => shown item ++ ", " ++ shownItems others

/-- The members of an object, separated by commas. -/
def shownMembers : List (String × Json) → String
  | [] => ""
  | [(name, value)] => Text.quoted name ++ ": " ++ shown value
  | (name, value) :: others =>
      Text.quoted name ++ ": " ++ shown value ++ ", " ++ shownMembers others

end

end Json

end Parley
