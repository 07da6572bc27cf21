import Parley.Text.Blank
import Parley.Text.Cells

/-!
# Wrapping, row counting and shortening

`wrapText` breaks the lines of a text that are too wide, at blanks where it can
and inside words where it must.  `displayRows` counts the terminal rows that a
text takes when it is written as it is.  `truncate` shortens a text to a label.
-/

namespace Parley.Text

/-- The columns of a tab stop. -/
def tabSize : Nat := 8

/-- The mark that stands for what was cut off. -/
def ellipsis : Char := '…'

/-- Breaks a word, given the piece under construction, so that no piece of more
than one character is wider than `width`. -/
def splitWordAfter (width : Nat) (current : List Char) : List Char → List (List Char)
  | [] => if current.isEmpty then [] else [current]
  | c :: rest =>
      if !current.isEmpty && width < cellLen (current ++ [c]) then
        current :: splitWordAfter width [c] rest
      else splitWordAfter width (current ++ [c]) rest

/-- The pieces of a word that fit a line of `width` cells. -/
def splitWord (width : Nat) (word : List Char) : List (List Char) :=
  splitWordAfter width [] word

/-- Fills lines greedily with pieces, given the line under construction. -/
def fillLinesAfter (width : Nat) (current : List Char) :
    List (List Char) → List (List Char)
  | [] => [current]
  | piece :: rest =>
      if current.isEmpty then fillLinesAfter width piece rest
      else if cellLen current + 1 + cellLen piece ≤ width then
        fillLinesAfter width (current ++ ' ' :: piece) rest
      else current :: fillLinesAfter width piece rest

/-- Reflows one line: its words, broken where they are too wide, fill new lines. -/
def reflow (width : Nat) (line : List Char) : List (List Char) :=
  fillLinesAfter width [] ((words line).flatMap (splitWord width))

/-- Wraps one line.  A line that fits is left as it is. -/
def wrapLine (width : Nat) (line : List Char) : List (List Char) :=
  if cellLen line ≤ width then [line] else reflow width line

/-- Widths below one count as one. -/
def lineWidth (width : Int) : Nat :=
  (max width 1).toNat

/-- The lines of a text wrapped to `width` cells. -/
def wrapLines (width : Nat) (s : List Char) : List (List Char) :=
  (lines s).flatMap (wrapLine width)

/-- Wraps a text to `width` display cells, breaking at blanks.  Lines that fit
pass through untouched. -/
def wrapText (s : String) (width : Int) : String :=
  String.ofList (['\n'].intercalate (wrapLines (lineWidth width) s.toList))

/-- Replaces tabs by spaces up to the next tab stop, given the current column.
Columns count characters; a line feed or a return starts them anew. -/
def expandTabsAfter (column : Nat) : List Char → List Char
  | [] => []
  | c :: rest =>
      if c = '\t' then
        let gap := tabSize - column % tabSize
        List.replicate gap ' ' ++ expandTabsAfter (column + gap) rest
      else if c = '\n' || c = '\r' then c :: expandTabsAfter 0 rest
      else c :: expandTabsAfter (column + 1) rest

/-- Replaces the tabs of a line by spaces. -/
def expandTabs (s : List Char) : List Char :=
  expandTabsAfter 0 s

/-- The rows of one line: its width over the row width, rounded up, and at least
one. -/
def lineRows (width : Nat) (line : List Char) : Nat :=
  max 1 ((cellLen (expandTabs line) + width - 1) / width)

/-- The number of terminal rows that a text takes when it is written at a width
of `width` columns. -/
def displayRows (s : String) (width : Int) : Nat :=
  sumOf ((lines s.toList).map (lineRows (lineWidth width)))

/-- The characters that a slice up to `limit` keeps; a negative limit counts
from the end. -/
def sliceLength (length : Nat) (limit : Int) : Nat :=
  if limit < 0 then (length + limit).toNat else min length limit.toNat

/-- Collapses the blanks of a text and shortens it to `limit` characters and an
ellipsis. -/
def truncate (s : String) (limit : Int) : String :=
  let collapsed := [' '].intercalate (words s.toList)
  if (collapsed.length : Int) ≤ limit then String.ofList collapsed
  else String.ofList (collapsed.take (sliceLength collapsed.length limit) ++ [ellipsis])

/-- The number of characters that a session label shows. -/
def sessionLabelLength : Int := 12

/-- The short form of a session key. -/
def sessionLabel (key : String) : String :=
  if key.isEmpty then "new" else truncate key sessionLabelLength

end Parley.Text
