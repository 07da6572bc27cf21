import Parley.Chat.Message
import Parley.Json.Reader
import Parley.Json.Writer

/-!
# Requests

A request asks a model for the next message of a conversation.  Its body is
JSON text; `encode` writes a body and `decode` reads one.
-/

namespace Parley

/-- A request for a reply. -/
structure Request where
  model : String
  messages : List Message
  stream : Bool
  deriving Repr, DecidableEq

namespace Request

/-- The record name that problems of a request are counted under. -/
def recordName : String := "ChatRequest"

/-- A request from fields of which the model and the stream flag are unchecked. -/
def ofFields (model : Json) (messages : List Message) (stream : Json) : Checked Request :=
  Checked.both (fun model rest => ⟨model, rest.1, rest.2⟩)
    (Checked.under (.field "model") (Checked.nonEmptyText model))
    (Checked.both Prod.mk
      (Checked.under (.field "messages") (Checked.nonEmptyList messages))
      (Checked.under (.field "stream") (Checked.flag stream)))

/-- The JSON form of a request. -/
def toJson (r : Request) : Json :=
  .object [("model", .string r.model), ("messages", .array (r.messages.map Message.toJson)),
    ("stream", .bool r.stream)]

/-- The body of a request. -/
def body (r : Request) : String :=
  r.toJson.write

/-- The body that asks `model` to continue a conversation.  The model must have a
name, and there must be a message to answer. -/
def encode (model : String) (messages : List Message) (stream : Bool) : Checked String :=
  (ofFields (.string model) messages (.bool stream)).map body

/-- A list with at least one message. -/
def checkMessages (value : Json) : Checked (List Message) :=
  match Checked.items Message.check value with
  | .ok messages => Checked.nonEmptyList messages
  | failed => failed

/-- A request from its members. -/
def ofMembers (found : List (String × Json)) : Checked Request :=
  Checked.both (fun model rest => ⟨model, rest.1, rest.2⟩)
    (Checked.required "model" Checked.nonEmptyText found)
    (Checked.both Prod.mk
      (Checked.required "messages" checkMessages found)
      (Checked.optional "stream" true Checked.flag found))

/-- Reads the body of a request. -/
def decode (text : String) : Checked Request :=
  match Json.read text with
  | none => Checked.fail .malformed
  | some value =>
      match Checked.members .notObject value with
      | .ok found => ofMembers found
      | .error problems => .error problems

end Request

end Parley
