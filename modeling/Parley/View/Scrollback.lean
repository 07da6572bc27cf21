import Parley.Conversation.State
import Parley.Terminal.Layout
import Parley.Text.Wrap
import Parley.View.Palette

/-!
# Entries of the scrollback

An entry is shown below a rule: who it is from, and its text.  Replies show their
drawn form, errors are one text, and the user's words are wrapped beforehand.  The
reply that is being streamed is shown as it arrived, with the spinner after it.
-/

namespace Parley.View

open Terminal

/-- A part of an entry. -/
inductive Block
  | rule (style : Style)
  | text (text : Styled)
  deriving Repr, DecidableEq

namespace Block

/-- A part as a drawing. -/
def drawing : Block → Drawing
  | rule style => Drawing.rule style
  | text shown => Drawing.ofStyled shown

end Block

/-- Prints parts one below the other. -/
def printBlocks (console : Console) (blocks : List Block) : String :=
  console.printLines <|
    blocks.flatMap fun block => block.drawing.lines ⟨console.width, .ragged, .fold⟩

/-- The rule above an entry. -/
def entryRule : Block :=
  .rule (.colored mutedColor)

/-- The label of the user. -/
def userLabel : Block :=
  .text (Styled.ofString "you" (.boldColored userColor))

/-- The label of the assistant. -/
def assistantLabel : Block :=
  .text (Styled.ofString "assistant" (.boldColored assistantColor))

/-- An error as it is shown. -/
def errorText (message : String) : Styled :=
  Styled.ofString ("Error: " ++ message) (.boldColored errorColor)

/-- An entry of the scrollback. -/
def entryBlocks (entry : Entry) (width : Int) : List Block :=
  match entry.speaker with
  | .error => [entryRule, .text (errorText entry.raw)]
  | .assistant =>
      [entryRule, assistantLabel, .text (Escape.read (entry.drawn.getD entry.raw))]
  | .user =>
      [entryRule, userLabel,
        .text (Styled.ofString (Text.wrapText entry.raw (width - 2)) (.colored userColor))]

/-- The reply that is being streamed. -/
def streamBlocks (reply spinner : String) : List Block :=
  let mark := if reply.isEmpty then spinner else " " ++ spinner
  [entryRule, assistantLabel,
    .text (Styled.append (Styled.ofString reply) (Styled.ofString mark (.colored accentColor)))]

end Parley.View
