import Parley.Record.Check

/-!
# Messages

A conversation is a list of messages, each with the role of its sender.
-/

namespace Parley

/-- Who a message is from. -/
inductive Role
  | user
  | assistant
  | system
  deriving Repr, DecidableEq

namespace Role

/-- The name of a role on the wire. -/
def name : Role → String
  | user => "user"
  | assistant => "assistant"
  | system => "system"

/-- The role of a name. -/
def ofName? (s : String) : Option Role :=
  if s = "user" then some user
  else if s = "assistant" then some assistant
  else if s = "system" then some system
  else none

@[simp]
theorem ofName?_name (role : Role) : ofName? role.name = some role := by
  cases role <;> decide

/-- A role, given by its name. -/
def check : Json → Checked Role
  | .string s => (ofName? s).elim (Checked.fail .notRole) .ok
  | _ => Checked.fail .notRole

end Role

/-- A message of a conversation. -/
structure Message where
  role : Role
  content : String
  deriving Repr, DecidableEq

namespace Message

/-- The members of a message, checked. -/
def ofMembers (found : List (String × Json)) : Checked Message :=
  Checked.both Message.mk (Checked.required "role" Role.check found)
    (Checked.required "content" Checked.text found)

/-- A message as it arrives from outside. -/
def check (value : Json) : Checked Message :=
  match Checked.members .notObject value with
  | .ok found => ofMembers found
  | .error problems => .error problems

/-- The JSON form of a message. -/
def toJson (m : Message) : Json :=
  .object [("role", .string m.role.name), ("content", .string m.content)]

end Message

end Parley
