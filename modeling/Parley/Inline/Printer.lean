import Parley.View.Banner
import Parley.View.Scrollback

/-!
# Printing a conversation

The inline mode prints into the scrollback of the terminal.  A reply is written as
it arrives; when it is complete, a terminal goes back over the rows that it took,
clears them, and shows the drawn reply instead.
-/

namespace Parley.Inline

open Terminal View

/-- Where the inline mode prints, and what it has printed of the current reply. -/
structure Printer where
  console : Console
  /-- Whether rows can be cleared and printed again. -/
  isTerminal : Bool
  /-- The reply as it was written. -/
  raw : String := ""
  /-- Whether the line says that there is no reply yet. -/
  thinking : Bool := false
  deriving Repr, DecidableEq

namespace Printer

/-- Goes up one row and clears it. -/
def upClear : String := "\x1b[A\x1b[K"

/-- Clears the current row. -/
def clearLine : String := "\r\x1b[K"

/-- What is shown while there is no reply yet. -/
def thinkingText : String :=
  spinnerAt 0 ++ " Thinking..."

/-- The width as views take it. -/
def width (p : Printer) : Int :=
  p.console.width

/-- An empty line. -/
def emptyLine : String := "\n"

/-- The banner of a conversation. -/
def banner (p : Printer) (c : Conversation) : Except MarkupError String :=
  (printBanner p.console c.model c.endpoint c.sessionKey version).map (· ++ emptyLine)

/-- An entry. -/
def entry (p : Printer) (shown : Entry) : String :=
  printBlocks p.console (entryBlocks shown p.width)

/-- A text without a line end. -/
def unended (p : Printer) (s : String) (style : Style) : String :=
  let printed := p.console.printText (Styled.ofString s style)
  Text.takeText printed (printed.length - 1)

/-- Begins a reply: its label, and on a terminal the mark that there is none yet. -/
def startReply (p : Printer) : String × Printer :=
  let label := p.entry ⟨.assistant, "", none⟩
  if p.isTerminal then
    (label ++ p.unended thinkingText (.colored mutedColor), { p with raw := "", thinking := true })
  else (label, { p with raw := "" })

/-- Clears the mark that there is no reply yet. -/
def clearThinking (p : Printer) : String × Printer :=
  if p.thinking then (clearLine, { p with thinking := false }) else ("", p)

/-- Writes a piece of a reply as it is. -/
def delta (p : Printer) (text : String) : String × Printer :=
  let (cleared, p) := p.clearThinking
  (cleared ++ text, { p with raw := p.raw ++ text })

/-- The rows that a written reply takes; a line end after it takes none. -/
def writtenRows (p : Printer) (raw : String) : Nat :=
  Text.displayRows
    (if Text.endsWith raw "\n" then Text.takeText raw (raw.length - 1) else raw) p.width

/-- Puts the drawn reply in the place of the written one. -/
def replaceRaw (p : Printer) (raw drawn : String) : String :=
  if p.isTerminal && !raw.isEmpty then
    String.join (List.replicate (p.writtenRows raw) upClear) ++ drawn ++ "\n"
  else ""

/-- An entry that was added at the end of a turn. -/
def committed (p : Printer) (raw : String) (shown : Entry) : String :=
  match shown.speaker, shown.drawn with
  | .assistant, some drawn => p.replaceRaw raw drawn
  | .error, _ => p.console.printText (errorText shown.raw)
  | _, _ => ""

/-- A finish reason that deserves mention. -/
def reason (p : Printer) (finishReason : Option String) : String :=
  match (nonEmpty? finishReason).filter (· != Conversation.usualReason) with
  | some reason => p.console.printPlain ("[finish: " ++ reason ++ "]") (.colored mutedColor)
  | none => ""

/-- Ends a reply: what was written ends in a line of its own, then come the entries that
the turn added. -/
def finish (p : Printer) (added : List Entry) (finishReason : Option String) : String × Printer :=
  let (cleared, p) := p.clearThinking
  let lineEnd := if p.raw.isEmpty || Text.endsWith p.raw "\n" then "" else "\n"
  let committed := String.join (added.map (p.committed p.raw))
  (cleared ++ lineEnd ++ committed ++ p.reason finishReason ++ emptyLine, { p with raw := "" })

/-- Says that the conversation was emptied. -/
def cleared (p : Printer) : String :=
  p.console.printPlain "Conversation cleared." (.colored mutedColor) ++ emptyLine

/-- Says goodbye. -/
def goodbye (p : Printer) : String :=
  emptyLine ++ p.console.printPlain "Goodbye!" (.attributes [.dim]) ++ emptyLine

end Printer

end Parley.Inline
