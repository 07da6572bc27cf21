import Parley.Text.Blank

/-!
# The prompt

The prompt holds one line of text and a cursor.  Up and Down walk through the
messages that were sent, the oldest one at the top; a step past the newest one shows
the draft again that was being typed.  While a reply is being streamed the prompt is
locked, and nothing is recalled.

The prompt tells the screen when its text has become another one and when Enter was
pressed.
-/

namespace Parley.Screen

/-- What the prompt tells the screen. -/
inductive Notice
  | changed (text : String)
  | submitted (text : String)
  deriving Repr, DecidableEq

/-- The prompt. -/
structure Prompt where
  value : String := ""
  cursor : Nat := 0
  locked : Bool := false
  /-- The messages that were sent, the oldest one first. -/
  sent : List String := []
  /-- Which of them is shown. -/
  position : Option Nat := none
  /-- What was being typed before one of them was shown. -/
  draft : String := ""
  deriving Repr, DecidableEq

namespace Prompt

/-- Makes the text another one; the cursor stays within it. -/
def assign (p : Prompt) (text : String) : Prompt × List Notice :=
  if text = p.value then (p, [])
  else ({ p with value := text, cursor := min p.cursor text.length }, [.changed text])

/-- Makes the text another one, with the cursor at its end. -/
def display (p : Prompt) (text : String) : Prompt × List Notice :=
  let (assigned, notices) := p.assign text
  ({ assigned with cursor := text.length }, notices)

/-! ## Editing -/

/-- Replaces the characters between two places; the cursor goes behind the new text. -/
def replace (p : Prompt) (start stop : Nat) (text : List Char) : Prompt × List Notice :=
  let chars := p.value.toList
  let (assigned, notices) := p.assign (String.ofList (chars.take start ++ text ++ chars.drop stop))
  ({ assigned with cursor := start + text.length }, notices)

/-- Inserts a text at the cursor. -/
def insert (p : Prompt) (text : List Char) : Prompt × List Notice :=
  p.replace p.cursor p.cursor text

/-- Removes the character before the cursor. -/
def deleteBefore (p : Prompt) : Prompt × List Notice :=
  p.replace (p.cursor - 1) p.cursor []

/-- Removes the character at the cursor. -/
def deleteAt (p : Prompt) : Prompt × List Notice :=
  p.replace p.cursor (p.cursor + 1) []

/-- Moves the cursor to the left. -/
def left (p : Prompt) : Prompt :=
  { p with cursor := p.cursor - 1 }

/-- Moves the cursor to the end. -/
def toEnd (p : Prompt) : Prompt :=
  { p with cursor := p.value.length }

/-- Inserts a text from the clipboard.  A message is one line: every run of blanks
becomes a space. -/
def paste (p : Prompt) (text : String) : Prompt × List Notice :=
  if text.isEmpty then (p, []) else p.insert (Text.collapseBlanks text).toList

/-- Enter was pressed. -/
def submit (p : Prompt) : List Notice :=
  [.submitted p.value]

/-! ## Recalling -/

/-- Shows the sent message at a place. -/
def recallAt (p : Prompt) (place : Nat) : Prompt × List Notice :=
  { p with position := some place }.display (p.sent.getD place "")

/-- Shows the sent message before the one that is shown. -/
def older (p : Prompt) : Prompt × List Notice :=
  match p.position with
  | none => { p with draft := p.value }.recallAt (p.sent.length - 1)
  | some place => p.recallAt (place - 1)

/-- Shows the sent message after the one that is shown, or the draft after the last
one. -/
def newer (p : Prompt) : Prompt × List Notice :=
  match p.position with
  | none => (p, [])
  | some place =>
      if place + 1 < p.sent.length then p.recallAt (place + 1)
      else { p with position := none }.display p.draft

/-- Whether sent messages can be recalled. -/
def recalls (p : Prompt) : Bool :=
  !p.locked && !p.sent.isEmpty

/-- Up was pressed. -/
def up (p : Prompt) : Prompt × List Notice :=
  if p.recalls then p.older else (p, [])

/-- Down was pressed. -/
def down (p : Prompt) : Prompt × List Notice :=
  if p.recalls then p.newer else (p, [])

/-- Takes note of a message that was sent.  A message sent twice in a row counts once. -/
def remember (p : Prompt) (message : String) : Prompt :=
  { p with
    sent :=
      if message.isEmpty || p.sent.getLast? = some message then p.sent else p.sent ++ [message]
    position := none
    draft := "" }

end Prompt

end Parley.Screen
