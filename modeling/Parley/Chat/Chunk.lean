import Parley.Json.Reader
import Parley.Record.Check
import Parley.Text.Blank

/-!
# Chunks of a streamed reply

A streamed reply is a text of lines.  A line that starts with `data: ` carries
either a chunk, as JSON text, or the marker that ends the stream; all other
lines carry nothing.
-/

namespace Parley

/-- What a choice of a chunk adds to the reply. -/
structure Delta where
  role : Option String
  content : Option String
  deriving Repr, DecidableEq

/-- One of the alternatives in a chunk. -/
structure ChunkChoice where
  delta : Option Delta
  finishReason : Option String
  deriving Repr, DecidableEq

/-- A piece of a streamed reply. -/
structure Chunk where
  id : String
  choices : List ChunkChoice
  deriving Repr, DecidableEq

/-- A text that is there and not empty. -/
def nonEmpty? : Option String → Option String
  | some s => if s.isEmpty then none else some s
  | none => none

/-- Nothing, or a text. -/
def Checked.optionalText (name : String) (found : List (String × Json)) :
    Checked (Option String) :=
  Checked.optional name none (Checked.nullable Checked.text) found

/-- The members of an object in JSON text. -/
def Checked.object {α : Type} (ofMembers : List (String × Json) → Checked α) (value : Json) :
    Checked α :=
  match Checked.members .notObject value with
  | .ok found => ofMembers found
  | .error problems => .error problems

namespace Delta

/-- A delta from its members. -/
def ofMembers (found : List (String × Json)) : Checked Delta :=
  Checked.both Delta.mk (Checked.optionalText "role" found)
    (Checked.optionalText "content" found)

end Delta

namespace ChunkChoice

/-- A choice from its members. -/
def ofMembers (found : List (String × Json)) : Checked ChunkChoice :=
  Checked.both ChunkChoice.mk
    (Checked.optional "delta" none (Checked.nullable (Checked.object Delta.ofMembers)) found)
    (Checked.optionalText "finish_reason" found)

/-- The content that a choice adds, if there is any. -/
def content? (choice : ChunkChoice) : Option String :=
  choice.delta.bind fun delta => nonEmpty? delta.content

end ChunkChoice

namespace Chunk

/-- A chunk from its members. -/
def ofMembers (found : List (String × Json)) : Checked Chunk :=
  Checked.both Chunk.mk (Checked.optional "id" "" Checked.text found)
    (Checked.optional "choices" [] (Checked.items (Checked.object ChunkChoice.ofMembers)) found)

/-- The non-empty contents of a chunk, in the order of its choices. -/
def deltas (chunk : Chunk) : List String :=
  chunk.choices.filterMap ChunkChoice.content?

/-- The last non-empty finish reason of a chunk. -/
def finishReason (chunk : Chunk) : Option String :=
  (chunk.choices.filterMap fun choice => nonEmpty? choice.finishReason).getLast?

/-- Reads a chunk from JSON text. -/
def decode (text : String) : Checked Chunk :=
  match Json.read text with
  | none => Checked.fail .malformed
  | some value => Checked.object ofMembers value

end Chunk

/-- What a line of a streamed reply carries. -/
inductive StreamLine
  | nothing
  | done
  | chunk (c : Chunk)
  deriving Repr, DecidableEq

namespace StreamLine

/-- How a line that carries something starts. -/
def dataMark : String := "data: "

/-- The text after the mark that ends the stream. -/
def doneMark : String := "[DONE]"

/-- Whether a line starts with the data mark. -/
def isData (line : String) : Bool :=
  Text.startsWith line dataMark

/-- Reads a line.  A line that carries no readable chunk counts as nothing. -/
def decode (line : String) : StreamLine :=
  if isData line then
    let data := Text.dropText line dataMark.length
    if data = doneMark then done
    else
      match Chunk.decode data with
      | .ok c => chunk c
      | .error _ => nothing
  else nothing

end StreamLine

/-- The outcome of a streamed reply. -/
structure StreamResult where
  content : String
  finishReason : Option String
  chunks : Nat
  deriving Repr, DecidableEq

end Parley
