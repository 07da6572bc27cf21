import Parley.Conversation.Turn
import Parley.Inline.Printer

/-!
# The inline mode

The inline mode prints a banner and then reads one line after another.  A command is
carried out at once; a message begins a turn, which is shown until its closing event
before the next line is read.  The mode ends with a command to quit, at the end of the
input, or when a turn is broken off; it does not begin if there is no banner.
-/

namespace Parley.Inline

open Terminal

/-- What a client does for a turn: the request that reached the server, what it
handed over, and the request to stop the program if there was one. -/
structure Served where
  request : Option SentRequest
  deliveries : List Delivery
  stopped : Option Failure := none

/-- A client: what it does for the turn with a number, given the messages to send. -/
abbrev Client := Nat → List Message → Served

/-- What happens to a turn whose server falls silent. -/
inductive Patience
  /-- Its time runs out. -/
  | deadline
  /-- It is broken off, together with the inline mode. -/
  | breakOff
  deriving Repr, DecidableEq

/-- The client of an endpoint whose server gives answers in their order.  A request to
stop comes before all events that are not shown yet. -/
def Client.ofAnswers [Wire.Platform] (config : Config) (traced : Bool) (patience : Patience)
    (answerAt : Nat → Answer) : Client := fun turn messages =>
  let (request, deliveries, started) :=
    Turn.start config messages traced (Relay.start traced false) (answerAt turn)
  match started.stop? with
  | some failure => ⟨request, deliveries.filter fun d => d.event?.isNone, some failure⟩
  | none =>
      if started.isRunning && patience = .deadline then
        ⟨request, deliveries ++ (started.expire config).1, none⟩
      else ⟨request, deliveries, none⟩

/-- The inline mode between two lines. -/
structure Chat where
  conversation : Conversation
  printer : Printer
  /-- How many turns there were. -/
  turns : Nat := 0

/-- How the inline mode goes on after a line. -/
inductive Progress
  | reading
  | left
  | broken
  deriving Repr, DecidableEq

/-- What a line leads to. -/
structure Step where
  output : String
  /-- The messages of the turn that the line began, and what the client did. -/
  served : Option (List Message × Served)
  chat : Chat
  progress : Progress

/-- A run of the inline mode: what it prints first, and what its lines lead to. -/
structure Sitting where
  banner : String
  steps : List Step

/-- A line of input, and the width of the console if it has changed before. -/
structure Input where
  line : String
  width : Option Nat
  deriving Repr, DecidableEq

namespace Chat

/-- The inline mode before the first line. -/
def start (config : Config) (console : Console) (isTerminal : Bool) (height : Int) : Chat where
  conversation := .start config.model config.sessionKey config.baseUrl console.width height
  printer := { console, isTerminal }

/-- Shows the events of a turn up to its closing event. -/
def play (render : Renderer) (chat : Chat) : List Event → String × Chat × Progress
  | [] => ("", chat, .broken)
  | event :: rest =>
      let (conversation, _) := chat.conversation.handle render event
      let next := { chat with conversation }
      match event with
      | .delta text =>
          let (written, printer) := chat.printer.delta text
          let (output, last, progress) := play render { next with printer } rest
          (written ++ output, last, progress)
      | .done .. =>
          let added := conversation.entries.drop chat.conversation.entries.length
          let (written, printer) := chat.printer.finish added conversation.finishReason
          (written, { next with printer }, .reading)
      | _ => play render next rest

/-- Runs the turn that the conversation has just begun. -/
def turn (render : Renderer) (client : Client) (chat : Chat) : Step :=
  let messages := chat.conversation.history
  let served := client chat.turns messages
  let asked := String.join (chat.conversation.entries.getLast?.toList.map chat.printer.entry)
  let (begun, printer) := chat.printer.startReply
  let (shown, last, progress) :=
    { chat with printer, turns := chat.turns + 1 }.play render
      (served.deliveries.filterMap Delivery.event?)
  ⟨asked ++ begun ++ shown, some (messages, served), last, progress⟩

/-- Reads a line. -/
def read (render : Renderer) (client : Client) (chat : Chat) (input : Input) : Step :=
  let console := { chat.printer.console with width := input.width.getD chat.printer.console.width }
  let printer := { chat.printer with console }
  let sized := chat.conversation.resize render printer.width chat.conversation.height
  let (conversation, action) := (sized.edit input.line).submit
  let next := { chat with conversation, printer }
  match action with
  | .quit => ⟨printer.goodbye, none, next, .left⟩
  | .clear => ⟨printer.cleared, none, next, .reading⟩
  | .startTurn => next.turn render client
  | _ => ⟨"", none, next, .reading⟩

/-- The end of the input. -/
def leave (chat : Chat) : Step :=
  ⟨chat.printer.goodbye, none, chat, .left⟩

/-- Reads lines until the inline mode ends. -/
def readLines (render : Renderer) (client : Client) (chat : Chat) : List Input → List Step
  | [] => [chat.leave]
  | input :: rest =>
      let step := chat.read render client input
      step :: if step.progress = .reading then step.chat.readLines render client rest else []

/-- Runs the inline mode.  A banner with faulty markup ends it before a line is read. -/
def run (render : Renderer) (client : Client) (chat : Chat) (inputs : List Input) :
    Except MarkupError Sitting :=
  (chat.printer.banner chat.conversation).map fun banner =>
    ⟨banner, chat.readLines render client inputs⟩

end Chat

end Parley.Inline
