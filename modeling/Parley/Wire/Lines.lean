/-!
# Lines of a body

The text of a streamed body is cut into lines at any of the line separators; a
return followed by a line feed is one separator.  The cutter keeps the line
under construction between two pieces of text, and holds a return back until it
knows what follows, so the lines do not depend on how the text was cut.
-/

namespace Parley.Wire

/-- The separators of lines. -/
def isLineBreak (c : Char) : Bool :=
  c == '\n' || c == '\r' || c == '\x0b' || c == '\x0c' || c == '\x1c' || c == '\x1d' ||
    c == '\x1e' || c == '\u0085' || c == '\u2028' || c == '\u2029'

/-- A cutter of lines: the line under construction, backwards, and whether a
return was read after it. -/
structure LineCutter where
  pending : List Char
  held : Bool
  deriving Repr, DecidableEq

namespace LineCutter

/-- A cutter at the start of a text. -/
def start : LineCutter :=
  ⟨[], false⟩

/-- The line under construction. -/
def line (cutter : LineCutter) : String :=
  String.ofList cutter.pending.reverse

/-- Reads a character that does not follow a held return. -/
def push (pending : List Char) (c : Char) : List String × LineCutter :=
  if c = '\r' then ([], ⟨pending, true⟩)
  else if isLineBreak c then ([String.ofList pending.reverse], start)
  else ([], ⟨c :: pending, false⟩)

/-- Reads a character. -/
def step (cutter : LineCutter) (c : Char) : List String × LineCutter :=
  if cutter.held then
    if c = '\n' then ([cutter.line], start)
    else
      let (found, next) := push [] c
      (cutter.line :: found, next)
  else push cutter.pending c

/-- Reads a text, the lines found so far in reverse order. -/
def feedAfter (found : List String) : LineCutter → List Char → List String × LineCutter
  | cutter, [] => (found.reverse, cutter)
  | cutter, c :: rest =>
      let (lines, next) := step cutter c
      feedAfter (lines.reverse ++ found) next rest

/-- The lines that a text completes. -/
def feed (cutter : LineCutter) (s : List Char) : List String × LineCutter :=
  feedAfter [] cutter s

/-- The last line, if it was not empty or a held return ends it. -/
def finish (cutter : LineCutter) : List String :=
  if cutter.held || !cutter.pending.isEmpty then [cutter.line] else []

end LineCutter

/-- The lines of a complete text. -/
def splitLines (s : List Char) : List String :=
  let (found, cutter) := LineCutter.start.feed s
  found ++ cutter.finish

end Parley.Wire
