import Parley.Chat.Message
import Parley.Conversation.Event
import Parley.Text.Blank

/-!
# Conversations

A conversation holds the history that is sent to the server, the entries that
are shown, the input, and the reply that is being streamed.  It reaches nothing
outside: the interface feeds it events and carries out the actions it returns.

Replies are drawn by a renderer, a function of the text and the width, which is
given to the operations that draw.
-/

namespace Parley

/-- Who an entry is from. -/
inductive Speaker
  | user
  | assistant
  | error
  deriving Repr, DecidableEq

namespace Speaker

/-- The word for a speaker. -/
def word : Speaker → String
  | user => "user"
  | assistant => "assistant"
  | error => "error"

/-- The role under which the words of a speaker are sent, if they are sent. -/
def role? : Speaker → Option Role
  | user => some .user
  | assistant => some .assistant
  | error => none

end Speaker

/-- Something shown in the scrollback.  Replies are drawn, the rest is shown as it
is. -/
structure Entry where
  speaker : Speaker
  raw : String
  drawn : Option String
  deriving Repr, DecidableEq

/-- Draws a text at a width. -/
abbrev Renderer := String → Int → String

/-- The state of a conversation. -/
structure Conversation where
  model : String
  sessionKey : String
  endpoint : String
  width : Int
  height : Int
  history : List Message
  entries : List Entry
  input : String
  streaming : Bool
  /-- What has arrived of the reply that is being streamed. -/
  reply : String
  lastError : Option String
  finishReason : Option String
  deriving Repr, DecidableEq

namespace Conversation

/-- The width of a terminal that is not known. -/
def defaultWidth : Int := 80

/-- The height of a terminal that is not known. -/
def defaultHeight : Int := 24

/-- The inputs that end a conversation. -/
def quitCommands : List String := ["/quit", "/exit"]

/-- The input that empties a conversation. -/
def clearCommand : String := "/clear"

/-- An empty conversation. -/
def start (model sessionKey endpoint : String) (width height : Int) : Conversation :=
  ⟨model, sessionKey, endpoint, width, height, [], [], "", false, "", none, none⟩

/-- The width of the bodies of entries. -/
def contentWidth (c : Conversation) : Int :=
  max (c.width - 2) 1

/-- Changes the input, unless a reply is being streamed. -/
def edit (c : Conversation) (text : String) : Conversation :=
  if c.streaming then c else { c with input := text }

/-- Begins a turn with a message of the user. -/
def startTurn (c : Conversation) (content : String) : Conversation :=
  { c with
    history := c.history ++ [⟨.user, content⟩]
    entries := c.entries ++ [⟨.user, content, none⟩]
    input := ""
    streaming := true
    reply := ""
    lastError := none
    finishReason := none }

/-- Empties the conversation. -/
def clear (c : Conversation) : Conversation :=
  { c with history := [], entries := [], input := "", lastError := none, finishReason := none }

/-- Takes the input as a command or as a message. -/
def submit (c : Conversation) : Conversation × Action :=
  if c.streaming then (c, .none)
  else
    let text := Text.stripText c.input
    if text.isEmpty then (c, .none)
    else if quitCommands.contains text then (c, .quit)
    else if text = clearCommand then (c.clear, .clear)
    else (c.startTurn text, .startTurn)

/-- Adds a piece to the reply that is being streamed. -/
def addDelta (c : Conversation) (text : String) : Conversation :=
  if c.streaming then { c with reply := c.reply ++ text } else c

/-- Moves the reply into the history and the scrollback. -/
def commit (render : Renderer) (c : Conversation) : Conversation :=
  { c with
    history := c.history ++ [⟨.assistant, c.reply⟩]
    entries := c.entries ++ [⟨.assistant, c.reply, some (render c.reply c.contentWidth)⟩] }

/-- Shows an error.  It never reaches the history. -/
def report (c : Conversation) (error : Failure) : Conversation :=
  { c with
    entries := c.entries ++ [⟨.error, error.described, none⟩]
    lastError := some error.described }

/-- Ends a turn.  What arrived of a failed reply is kept. -/
def finish (render : Renderer) (c : Conversation) (error : Option Failure)
    (finishReason : Option String) : Conversation :=
  let kept := if error.isNone || !c.reply.isEmpty then c.commit render else c
  let told := error.elim kept kept.report
  { told with finishReason, reply := "", streaming := false }

/-- Draws an entry again at another width. -/
def redraw (render : Renderer) (width : Int) (entry : Entry) : Entry :=
  match entry.speaker with
  | .assistant => { entry with drawn := some (render entry.raw width) }
  | _ => entry

/-- Takes note of the size of the terminal, and draws the replies again if its
width is another one. -/
def resize (render : Renderer) (c : Conversation) (width height : Int) : Conversation :=
  let sized := { c with width, height }
  if width = c.width then sized
  else { sized with entries := c.entries.map (redraw render sized.contentWidth) }

/-- Handles an event. -/
def handle (render : Renderer) (c : Conversation) : Event → Conversation × Action
  | .edit text => (c.edit text, if c.streaming then .none else .render)
  | .submit => c.submit
  | .resize width height => (c.resize render width height, .render)
  | .delta text => (c.addDelta text, if c.streaming then .render else .none)
  | .done error result =>
      if c.streaming then
        (c.finish render error (result.bind StreamResult.finishReason), .render)
      else (c, .none)
  | .quit => (c, .quit)

/-- Handles events in their order, collecting the actions. -/
def handleAll (render : Renderer) (c : Conversation) : List Event → Conversation × List Action
  | [] => (c, [])
  | event :: rest =>
      let (next, action) := c.handle render event
      let (last, actions) := next.handleAll render rest
      (last, action :: actions)

/-- The finish reason that needs no mention. -/
def usualReason : String := "stop"

/-- The finish reason of the last reply, if it deserves mention. -/
def unusualReason? (c : Conversation) : Option String :=
  (nonEmpty? c.finishReason).filter (· != usualReason)

/-- What the status line says. -/
def status (c : Conversation) : String :=
  if c.streaming then "Generating..."
  else
    match nonEmpty? c.lastError, c.unusualReason? with
    | some error, _ => error
    | none, some reason => "Ready (" ++ reason ++ ")"
    | none, none => "Ready"

/-- The entries of replies. -/
def replies (c : Conversation) : List Entry :=
  c.entries.filter fun entry => entry.speaker = .assistant

/-- The widths at which replies were drawn on the way from one state to the next:
all of them after a change of width, otherwise those that were added. -/
def drawnBetween (before after : Conversation) : List Int :=
  let count :=
    if before.width = after.width then after.replies.length - before.replies.length
    else after.replies.length
  List.replicate count after.contentWidth

end Conversation

end Parley
