import Parley.Conversation.State
import Parley.Terminal.Line
import Parley.Text.Wrap
import Parley.View.Palette

/-!
# The status bar

The status bar is one line of segments: the model, the session, the status and
the number of messages.  Each segment has its own background and ends in an arrow
that leads over to the next one.  The line is padded or cropped to the width of
the terminal.
-/

namespace Parley.View

open Terminal

/-- The tones of segments.  The status is ready, busy or an error; the other segments
have tones of their own. -/
inductive Tone
  | ready
  | busy
  | error
  | model
  | session
  | count
  deriving Repr, DecidableEq

namespace Tone

/-- All tones. -/
def all : List Tone :=
  [ready, busy, error, model, session, count]

/-- The word for a tone. -/
def word : Tone → String
  | ready => "ready"
  | busy => "busy"
  | error => "error"
  | model => "model"
  | session => "session"
  | count => "count"

/-- The tone of a word; other words count as ready. -/
def ofWord (s : String) : Tone :=
  (all.find? fun tone => tone.word == s).getD ready

/-- The background of a segment. -/
def color : Tone → Color
  | ready => readyColor
  | busy => busyColor
  | error => errorColor
  | model => modelColor
  | session => sessionColor
  | count => countColor

/-- The tone of the status of a conversation. -/
def ofConversation (c : Conversation) : Tone :=
  if c.streaming then busy
  else if (nonEmpty? c.lastError).isSome then error
  else ready

end Tone

/-- What the status bar shows. -/
structure StatusBar where
  model : String
  sessionKey : String
  status : String
  count : Int
  spinner : String
  tone : Tone
  deriving Repr, DecidableEq

namespace StatusBar

/-- The characters of an error that the status shows. -/
def errorLength : Int := 40

/-- The text of the status segment. -/
def statusText (bar : StatusBar) : String :=
  match bar.tone with
  | .busy => Text.stripText (bar.spinner ++ " " ++ bar.status)
  | .error => Text.truncate bar.status errorLength
  | _ => bar.status

/-- The segments: their labels and tones. -/
def segments (bar : StatusBar) : List (String × Tone) := [
  (bar.model, .model), (Text.sessionLabel bar.sessionKey, .session), (bar.statusText, bar.tone),
  (toString bar.count ++ " msgs", .count)]

/-- The runs of segments; each arrow leads to the background of the next one. -/
def runs : List (String × Tone) → Line
  | [] => []
  | (label, tone) :: rest =>
      let next := (rest.head?.map fun segment => segment.2.color).getD barColor
      ⟨' ' :: Styled.kept label.toList ++ [' '],
        { on := [.bold], foreground := some inkColor, background := some tone.color }⟩ ::
      ⟨[arrow], { foreground := some tone.color, background := some next }⟩ :: runs rest

/-- The bar at a width. -/
def line (bar : StatusBar) (width : Int) : Line :=
  let full := runs bar.segments
  let room := width - full.cells
  if 0 < room then full ++ Line.spaces room.toNat (.onColor barColor)
  else full.crop .fold width.toNat

/-- The bar of a conversation. -/
def ofConversation (c : Conversation) (spinner : String) : StatusBar :=
  ⟨c.model, c.sessionKey, c.status, c.entries.length, spinner, .ofConversation c⟩

end StatusBar

/-- A stretch of a line with one style: where it starts and ends, and its style. -/
structure Stretch where
  start : Nat
  stop : Nat
  style : Style
  deriving Repr, DecidableEq

/-- The stretches of a line, counted from a place. -/
def stretches (start : Nat) : Line → List Stretch
  | [] => []
  | run :: rest =>
      ⟨start, start + run.text.length, run.style⟩ :: stretches (start + run.text.length) rest

end Parley.View
