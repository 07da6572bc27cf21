import Parley.Terminal.Style

/-!
# Colours and glyphs of the interface
-/

namespace Parley.View

open Terminal

/-- What the user says. -/
def userColor : Color := .ofCode 0x89b4fa

/-- What the assistant says. -/
def assistantColor : Color := .ofCode 0xf5c2e7

/-- Errors. -/
def errorColor : Color := .ofCode 0xf38ba8

/-- Titles and the prompt. -/
def accentColor : Color := .ofCode 0xfab387

/-- Rules and hints. -/
def mutedColor : Color := .ofCode 0x6c7086

/-- The ground of the status bar. -/
def barColor : Color := .ofCode 0x181825

/-- Text on a segment of the status bar. -/
def inkColor : Color := .ofCode 0x11111b

/-- The segment of the model. -/
def modelColor : Color := .ofCode 0xcba6f7

/-- The segment of the session. -/
def sessionColor : Color := .ofCode 0x89b4fa

/-- The status of a conversation that waits for input. -/
def readyColor : Color := .ofCode 0xa6e3a1

/-- The status of a conversation that waits for a reply. -/
def busyColor : Color := .ofCode 0xfab387

/-- The segment of the message count. -/
def countColor : Color := .ofCode 0x45475a

/-- The glyph between two segments of the status bar. -/
def arrow : Char := '\ue0b0'

/-- The glyphs of the spinner, in turn. -/
def spinnerFrames : List Char := ['⠋', '⠙', '⠹', '⠸', '⠼', '⠴', '⠦', '⠧', '⠇', '⠏']

/-- The glyph of the spinner after a number of ticks. -/
def spinnerAt (ticks : Nat) : String :=
  String.singleton (spinnerFrames.getD (ticks % spinnerFrames.length) ' ')

end Parley.View
