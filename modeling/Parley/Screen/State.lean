import Parley.Conversation.Turn
import Parley.Screen.LogPanel
import Parley.Screen.Prompt
import Parley.View.Scrollback
import Parley.View.StatusBar

/-!
# The full-screen mode

The screen shows the scrollback, the reply that is being streamed, a status bar, the
prompt and the log panel.  Every input and everything that a turn hands over goes
through the conversation as an event, after which the screen is brought in line with
it.

Two queues hold what has not been handled yet: what the prompt told the screen, and
the events that the worker of a turn has posted.  Both are handled in their order.
-/

namespace Parley.Screen

/-! ## Parts -/

/-- An entry of the scrollback as it is shown. -/
structure EntryView where
  speaker : Speaker
  shown : List View.Block
  deriving Repr, DecidableEq

/-- The view of an entry at a width. -/
def EntryView.of (width : Int) (entry : Entry) : EntryView :=
  ⟨entry.speaker, View.entryBlocks entry width⟩

/-- How much a note matters. -/
inductive Severity
  | information
  | warning
  deriving Repr, DecidableEq

/-- The word for a severity. -/
def Severity.word : Severity → String
  | .information => "information"
  | .warning => "warning"

/-- A note that is shown for a moment. -/
structure Note where
  text : String
  severity : Severity := .information
  deriving Repr, DecidableEq

/-- The worker of a turn. -/
structure Worker where
  /-- The number of the turn. -/
  turn : Nat
  messages : List Message
  relay : Relay
  deriving Repr, DecidableEq

/-- An event that the worker of a turn has posted. -/
structure Posted where
  turn : Nat
  event : Event
  deriving Repr, DecidableEq

end Screen

open Screen in
/-- The screen of the full-screen mode. -/
structure Screen where
  conversation : Conversation
  /-- The time that log lines are stamped with. -/
  time : Log.Timestamp
  /-- The width of the status bar; nothing before it was laid out. -/
  barWidth : Int := 0
  prompt : Prompt := {}
  panel : LogPanel := {}
  views : List EntryView := []
  /-- The reply that is being streamed, as it is shown. -/
  live : Option (List View.Block) := none
  bar : Terminal.Line := []
  /-- How often the spinner has moved. -/
  ticks : Nat := 0
  /-- How many turns have begun. -/
  turns : Nat := 0
  worker : Option Worker := none
  /-- What the prompt has told and what was not handled yet. -/
  notices : List Notice := []
  /-- What workers have posted and what was not handled yet. -/
  posted : List Posted := []
  notes : List Note := []
  clipboard : String := ""
  exited : Bool := false
  deriving Repr, DecidableEq

namespace Screen

/-! ## Drawing -/

/-- The spinner as it is now. -/
def spinner (s : Screen) : String :=
  View.spinnerAt s.ticks

/-- Brings the scrollback in line with the conversation: entries without a view get one,
and all views go if there are fewer entries. -/
def syncViews (s : Screen) : Screen :=
  let entries := s.conversation.entries
  let kept := if entries.length < s.views.length then [] else s.views
  { s with views := kept ++ (entries.drop kept.length).map (EntryView.of s.conversation.width) }

/-- Draws all entries again. -/
def redrawViews (s : Screen) : Screen :=
  { s with
    views := s.views.zipIdx.map fun (view, index) =>
      (s.conversation.entries[index]?.map (EntryView.of s.conversation.width)).getD view }

/-- Shows the reply that is being streamed. -/
def showReply (s : Screen) : Screen :=
  { s with
    live :=
      if s.conversation.streaming then some (View.streamBlocks s.conversation.reply s.spinner)
      else none }

/-- Shows the status. -/
def showStatus (s : Screen) : Screen :=
  let width := if s.barWidth = 0 then s.conversation.width else s.barWidth
  { s with bar := (View.StatusBar.ofConversation s.conversation s.spinner).line width }

/-- Locks the prompt while a reply is being streamed. -/
def lockPrompt (s : Screen) : Screen :=
  { s with prompt := { s.prompt with locked := s.conversation.streaming } }

/-- Brings the screen in line with the conversation. -/
def refresh (s : Screen) : Screen :=
  s.syncViews.showReply.showStatus.lockPrompt

/-! ## Events -/

/-- Logs a message of the screen itself. -/
def say (s : Screen) (message : String) : Screen :=
  { s with panel := s.panel.trace s.time ⟨Level.info.word, "TUI", message⟩ }

/-- Takes over a prompt with what it tells. -/
def withPrompt (s : Screen) (told : Prompt × List Notice) : Screen :=
  { s with prompt := told.1, notices := s.notices ++ told.2 }

/-- Empties the prompt. -/
def emptyPrompt (s : Screen) : Screen :=
  s.withPrompt (s.prompt.assign "")

/-- Posts the events among deliveries, and logs the traces. -/
def receive (s : Screen) (turn : Nat) (deliveries : List Delivery) : Screen :=
  { s with
    posted := s.posted ++ (deliveries.filterMap Delivery.event?).map (Posted.mk turn)
    panel :=
      (deliveries.filterMap Delivery.trace?).foldl (fun panel t => panel.trace s.time t) s.panel }

/-- Cancels the worker, if there is one. -/
def cancelWorker (s : Screen) : Screen :=
  match s.worker with
  | some worker =>
      { s.receive worker.turn (worker.relay.done (some .cancelled) none).1 with worker := none }
  | none => s

/-- Begins the turn that the conversation has begun.  Only one worker runs at a time. -/
def beginTurn (s : Screen) : Screen :=
  let history := s.conversation.history
  let message := (history.getLast?.map Message.content).getD ""
  let asked := ({ s with prompt := s.prompt.remember message }.emptyPrompt).say
    ("Turn started (" ++ toString history.length ++ " messages)")
  let free := asked.cancelWorker
  { free with
    turns := free.turns + 1
    worker := some ⟨free.turns, history, Relay.start true false⟩ }

/-- Shows that the conversation was emptied. -/
def showCleared (s : Screen) : Screen :=
  { s.emptyPrompt with views := [] }.say "Conversation cleared"

/-- Feeds an event to the conversation and carries out the action. -/
def dispatch (render : Renderer) (s : Screen) (event : Event) : Screen × Action :=
  let (conversation, action) := s.conversation.handle render event
  let fed := { s with conversation }
  let shown (s : Screen) : Screen :=
    match event with
    | .resize .. => s.redrawViews.refresh
    | _ => s.refresh
  match action with
  | .startTurn => (shown fed.beginTurn, action)
  | .clear => (shown fed.showCleared, action)
  | .quit => ({ fed with exited := true }, action)
  | _ => (shown fed, action)

/-- Feeds an event whose action does not matter. -/
def feed (render : Renderer) (s : Screen) (event : Event) : Screen :=
  (s.dispatch render event).1

/-! ## Queues -/

/-- Handles what the prompt told.  Text that was typed while a reply is being streamed is
taken back. -/
def handle (render : Renderer) (s : Screen) : Notice → Screen
  | .changed text =>
      let (fed, action) := s.dispatch render (.edit text)
      if action = .none && text != fed.conversation.input then
        fed.withPrompt (fed.prompt.assign fed.conversation.input)
      else fed
  | .submitted text => (s.feed render (.edit text)).feed render .submit

/-- Handles the oldest of the things that the prompt told. -/
def handleNotice (render : Renderer) (s : Screen) : Screen :=
  match s.notices with
  | [] => s
  | notice :: rest => { s with notices := rest }.handle render notice

/-- Handles the oldest of the posted events. -/
def handlePosted (render : Renderer) (s : Screen) : Screen :=
  match s.posted with
  | [] => s
  | oldest :: rest => { s with posted := rest }.feed render oldest.event

/-! ## The worker -/

/-- The worker passes a signal of its exchange on. -/
def workerSignal (s : Screen) (signal : Signal) : Screen :=
  match s.worker with
  | some worker => s.receive worker.turn (Turn.deliver worker.relay true signal)
  | none => s

/-- The exchange of the worker ends. -/
def workerEnds (s : Screen) (outcome : Except Failure StreamResult) : Screen :=
  match s.worker with
  | some worker => { s.receive worker.turn (Turn.close worker.relay outcome).1 with worker := none }
  | none => s

/-! ## Keys -/

/-- A key. -/
inductive Key
  | char (c : Char)
  | left
  | toEnd
  | backspace
  | delete
  | up
  | down
  | enter
  | quit
  | clearChat
  | toggleLog
  | copyReply
  deriving Repr, DecidableEq

/-- Shows a note. -/
def note (s : Screen) (text : String) (severity : Severity := .information) : Screen :=
  { s with notes := s.notes ++ [⟨text, severity⟩] }

/-- Empties the conversation, unless a reply is being streamed. -/
def clearChat (render : Renderer) (s : Screen) : Screen :=
  if s.conversation.streaming then s.note "Wait for the reply to finish" .warning
  else
    ((s.feed render (.edit Conversation.clearCommand)).feed render .submit).note "Chat cleared"

/-- Shows or hides the log panel. -/
def toggleLog (s : Screen) : Screen :=
  let shown := !s.panel.shown
  { s with panel := s.panel.setShown shown }.note
    ("Log panel " ++ if shown then "shown" else "hidden")

/-- Copies the last reply. -/
def copyReply (s : Screen) : Screen :=
  match s.conversation.replies.getLast? with
  | some entry => { s with clipboard := entry.raw }.note "Response copied"
  | none => s.note "No response to copy" .warning

/-- A key was pressed. -/
def press (render : Renderer) (s : Screen) : Key → Screen
  | .char c => s.withPrompt (s.prompt.insert [c])
  | .left => { s with prompt := s.prompt.left }
  | .toEnd => { s with prompt := s.prompt.toEnd }
  | .backspace => s.withPrompt s.prompt.deleteBefore
  | .delete => s.withPrompt s.prompt.deleteAt
  | .up => s.withPrompt s.prompt.up
  | .down => s.withPrompt s.prompt.down
  | .enter => { s with notices := s.notices ++ s.prompt.submit }
  | .quit => { s with exited := true }
  | .clearChat => s.clearChat render
  | .toggleLog => s.toggleLog
  | .copyReply => s.copyReply

/-- A text was pasted. -/
def paste (s : Screen) (text : String) : Screen :=
  s.withPrompt (s.prompt.paste text)

/-- The prompt shows another text. -/
def typeText (s : Screen) (text : String) : Screen :=
  s.withPrompt (s.prompt.display text)

/-! ## Time and size -/

/-- The spinner moves while a reply is being streamed. -/
def tick (s : Screen) : Screen :=
  if s.conversation.streaming then { s with ticks := s.ticks + 1 }.refresh else s

/-- The terminal has another size.  The status bar is laid out afterwards, so it takes
the new width when it is shown the next time. -/
def resize (render : Renderer) (s : Screen) (width height : Int) : Screen :=
  { s.feed render (.resize width height) with barWidth := width }

/-- The screen as it is first shown. -/
def start (render : Renderer) (config : Config) (time : Log.Timestamp) (width height : Int)
    (logLevel : Option String) : Screen :=
  let conversation := (Conversation.start config.model config.sessionKey config.baseUrl
    Conversation.defaultWidth Conversation.defaultHeight).resize render width height
  let panel : LogPanel := logLevel.elim {} (LogPanel.enable {} time)
  { ({ conversation, time, panel } : Screen).refresh with barWidth := width }

end Screen

end Parley
