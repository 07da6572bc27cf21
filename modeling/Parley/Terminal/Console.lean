import Parley.Terminal.Escape
import Parley.Terminal.Markup

/-!
# Printing

A console has a width and may show styles.  What is printed is drawn into lines
that fit the width, and every line ends with a line feed.
-/

namespace Parley.Terminal

/-- Where text is printed. -/
structure Console where
  width : Nat
  colored : Bool
  deriving Repr, DecidableEq

namespace Console

/-- Prints drawn lines. -/
def printLines (console : Console) (lines : List Line) : String :=
  String.ofList (lines.flatMap fun line =>
    (line.limit console.width).write console.colored ++ ['\n'])

/-- Prints a styled text. -/
def printText (console : Console) (text : Styled) : String :=
  console.printLines (text.draw ⟨console.width, .ragged, .fold⟩)

/-- Prints a text with markup. -/
def printMarkup (console : Console) (s : String) : Except MarkupError String :=
  (Markup.read s).map console.printText

/-- Prints a text without markup. -/
def printPlain (console : Console) (s : String) (style : Style := .none) : String :=
  console.printText (Markup.plain s style)

end Console

end Parley.Terminal
