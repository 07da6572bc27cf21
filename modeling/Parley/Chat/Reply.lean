import Parley.Chat.Message
import Parley.Chat.Chunk

/-!
# Whole replies

A reply that is not streamed is one JSON text, which may report an error instead
of holding a message.
-/

namespace Parley

/-- One of the alternatives in a reply. -/
structure ReplyChoice where
  message : Option Message
  finishReason : Option String
  deriving Repr, DecidableEq

/-- An error that the server reports. -/
structure ReplyError where
  message : String
  kind : String
  deriving Repr, DecidableEq

/-- A whole reply. -/
structure Reply where
  id : String
  choices : List ReplyChoice
  error : Option ReplyError
  deriving Repr, DecidableEq

namespace ReplyChoice

/-- A choice from its members. -/
def ofMembers (found : List (String × Json)) : Checked ReplyChoice :=
  Checked.both ReplyChoice.mk
    (Checked.optional "message" none (Checked.nullable Message.check) found)
    (Checked.optionalText "finish_reason" found)

end ReplyChoice

namespace ReplyError

/-- An error from its members. -/
def ofMembers (found : List (String × Json)) : Checked ReplyError :=
  Checked.both ReplyError.mk (Checked.optional "message" "" Checked.text found)
    (Checked.optional "type" "" Checked.text found)

end ReplyError

namespace Reply

/-- The record name that problems of a reply are counted under. -/
def recordName : String := "ChatResponse"

/-- A reply from its members. -/
def ofMembers (found : List (String × Json)) : Checked Reply :=
  Checked.both (fun id rest => ⟨id, rest.1, rest.2⟩)
    (Checked.optional "id" "" Checked.text found)
    (Checked.both Prod.mk
      (Checked.optional "choices" [] (Checked.items (Checked.object ReplyChoice.ofMembers)) found)
      (Checked.optional "error" none (Checked.nullable (Checked.object ReplyError.ofMembers))
        found))

/-- Reads a reply from text. -/
def decode (text : String) : Checked Reply :=
  match Json.read text with
  | none => Checked.fail .malformed
  | some value => Checked.object ofMembers value

/-- The error that a reply reports, unless its message is empty. -/
def reported? (reply : Reply) : Option String :=
  reply.error.bind fun error => nonEmpty? (some error.message)

/-- The content of the first choice. -/
def content? (reply : Reply) : Option String :=
  (reply.choices.head?.bind ReplyChoice.message).map Message.content

end Reply

end Parley
