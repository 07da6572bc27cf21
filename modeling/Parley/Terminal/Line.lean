import Parley.Terminal.Style
import Parley.Text.Blank
import Parley.Text.Cells

/-!
# Lines of styled text

A line is a list of runs, each a text with one style.  Lines are cut, cropped,
padded and wrapped; every operation acts on the characters as if they were one
text and leaves to each character the style of its place.
-/

namespace Parley.Terminal

/-- A text with one style. -/
structure Run where
  text : List Char
  style : Style
  deriving Repr, DecidableEq, Inhabited

/-- A line of styled text. -/
abbrev Line := List Run

/-- A text of one style, without an empty run. -/
def Line.ofChars (text : List Char) (style : Style) : Line :=
  if text.isEmpty then [] else [⟨text, style⟩]

/-- `n` spaces of one style. -/
def Line.spaces (n : Nat) (style : Style) : Line :=
  Line.ofChars (List.replicate n ' ') style

namespace Line

/-- The characters of a line. -/
def chars (line : Line) : List Char :=
  line.flatMap Run.text

/-- The cells of a line, measured as one text. -/
def cells (line : Line) : Nat :=
  Text.cellLen line.chars

/-- The cells of a line, measured run by run. -/
def runCells (line : Line) : Nat :=
  sumOf (line.map fun run => Text.cellLen run.text)

/-- The first `n` characters. -/
def take : Nat → Line → Line
  | _, [] => []
  | n, run :: rest =>
      if run.text.length ≤ n then run :: take (n - run.text.length) rest
      else ofChars (run.text.take n) run.style

/-- The line without its first `n` characters. -/
def drop : Nat → Line → Line
  | _, [] => []
  | n, run :: rest =>
      if run.text.length ≤ n then drop (n - run.text.length) rest
      else ⟨run.text.drop n, run.style⟩ :: rest

/-- Puts a style below those of the runs. -/
def under (style : Style) (line : Line) : Line :=
  line.map fun run => { run with style := style.add run.style }

/-- Other characters in the styles of a line, place by place.  Characters past its
end have no style. -/
def repaint : List Char → Line → Line
  | text, [] => ofChars text .none
  | text, run :: rest =>
      if text.isEmpty then []
      else
        ofChars (text.take run.text.length) run.style ++ repaint (text.drop run.text.length) rest

/-! ## Cropping and padding -/

/-- What happens to a text that is too wide. -/
inductive Overflow
  /-- Words that are too long are folded, what is still too wide is cut. -/
  | fold
  /-- What is too wide is cut and ends in an ellipsis. -/
  | ellipsis
  deriving Repr, DecidableEq

/-- Crops a line to `width` cells. -/
def crop (overflow : Overflow) (width : Nat) (line : Line) : Line :=
  if line.cells ≤ width then line
  else
    match overflow with
    | .fold => line.repaint (Text.fitCells width line.chars)
    | .ellipsis => line.repaint (Text.fitCells (width - 1) line.chars ++ ['…'])

/-- Pads a line to `width` cells with spaces at its end. -/
def padTo (width : Nat) (line : Line) : Line :=
  line ++ spaces (width - line.cells) .none

/-- Crops the runs of a line to `width` cells; the run that reaches the limit is
cut or filled up to it. -/
def cropRuns (width : Nat) : Line → Line
  | [] => []
  | run :: rest =>
      let size := Text.cellLen run.text
      if size < width then run :: cropRuns (width - size) rest
      else ofChars (Text.fitCells width run.text) run.style

/-- Crops a drawn line to `width` cells. -/
def limit (width : Nat) (line : Line) : Line :=
  if line.runCells ≤ width then line else cropRuns width line

/-- Crops or pads a drawn line to exactly `width` cells; the padding has a style. -/
def fill (width : Nat) (style : Style) (line : Line) : Line :=
  if line.runCells < width then line ++ spaces (width - line.runCells) style else line.limit width

/-- Removes blanks at the end as long as there are more than `width` characters. -/
def trimEnd (width : Nat) (line : Line) : Line :=
  let text := line.chars
  let size := text.length
  if size ≤ width then line
  else
    let blanks := size - (Text.dropTailWhile Text.isBlank text).length
    line.take (size - min blanks (size - width))

/-- Removes the blanks at the end. -/
def strip (line : Line) : Line :=
  line.take (Text.dropTailWhile Text.isBlank line.chars).length

/-! ## Tabs -/

/-- The columns of a tab stop. -/
def tabSize : Nat := 8

/-- Replaces the tabs of a run, given the cells before the current part of the
line, and that part and the run so far backwards.  Returns the runs, the cells
and the part. -/
def expandRun (style : Style) (before : Nat) (part built : List Char) :
    List Char → Line × Nat × List Char
  | [] => (ofChars built.reverse style, before, part)
  | c :: rest =>
      if c = '\t' then
        let position := before + Text.cellLen (' ' :: part).reverse
        let gap := (tabSize - position % tabSize) % tabSize
        let (runs, after) := expandRun style (position + gap) [] [] rest
        (⟨built.reverse ++ List.replicate (gap + 1) ' ', style⟩ :: runs, after)
      else expandRun style before (c :: part) (c :: built) rest

/-- Replaces tabs, given the cells before the current part and that part
backwards. -/
def expandAfter (before : Nat) (part : List Char) : Line → Line
  | [] => []
  | run :: rest =>
      let (runs, before, part) := expandRun run.style before part [] run.text
      runs ++ expandAfter before part rest

/-- Replaces the tabs of a line by spaces up to the next tab stop. -/
def expandTabs (line : Line) : Line :=
  if line.chars.contains '\t' then expandAfter 0 [] line else line

/-! ## Wrapping -/

/-- Where a scan for words is. -/
inductive WordPhase
  | lead
  | body
  | tail
  deriving Repr, DecidableEq

/-- The words of a text with the blanks around them, given the word under
construction backwards.  Blanks without a word after them are left out. -/
def spacedWordsAfter (phase : WordPhase) (word : List Char) : List Char → List (List Char)
  | [] => if phase = .lead then [] else [word.reverse]
  | c :: rest =>
      if Text.isBlank c then
        spacedWordsAfter (if phase = .lead then .lead else .tail) (c :: word) rest
      else if phase = .tail then word.reverse :: spacedWordsAfter .body [c] rest
      else spacedWordsAfter .body (c :: word) rest

/-- The words of a text, each with the blanks after it, the first one also with
those before it. -/
def spacedWords (text : List Char) : List (List Char) :=
  spacedWordsAfter .lead [] text

/-- The breaks inside a word that is too long, given where it starts, and the
cells of its last piece. -/
def foldBreaks (start : Nat) : List (List Char) → List Nat × Nat
  | [] => ([], 0)
  | [last] => (if start = 0 then [] else [start], Text.cellLen last)
  | piece :: rest =>
      let (breaks, cells) := foldBreaks (start + piece.length) rest
      (if start = 0 then breaks else start :: breaks, cells)

/-- The places where lines end, given where the next word starts and how many cells
of the line are taken. -/
def breaksAfter (overflow : Overflow) (width start used : Nat) : List (List Char) → List Nat
  | [] => []
  | word :: rest =>
      let next := start + word.length
      let size := Text.cellLen (Text.dropTailWhile Text.isBlank word)
      let whole := Text.cellLen word
      if used + size ≤ width then breaksAfter overflow width next (used + whole) rest
      else if width < size then
        match overflow with
        | .fold =>
            let (breaks, cells) := foldBreaks start (Text.chop width word)
            breaks ++ breaksAfter overflow width next cells rest
        | .ellipsis =>
            (if start = 0 then [] else [start]) ++ breaksAfter overflow width next whole rest
      else if used = 0 || start = 0 then breaksAfter overflow width next used rest
      else start :: breaksAfter overflow width next whole rest

/-- The places where a text is broken into lines of `width` cells. -/
def breaks (overflow : Overflow) (width : Nat) (text : List Char) : List Nat :=
  breaksAfter overflow width 0 0 (spacedWords text)

/-- Cuts a line at ascending places, of which `done` characters are gone. -/
def divideAfter (done : Nat) (line : Line) : List Nat → List Line
  | [] => [line]
  | place :: rest => line.take (place - done) :: divideAfter place (line.drop (place - done)) rest

/-- Cuts a line at ascending places. -/
def divide (places : List Nat) (line : Line) : List Line :=
  divideAfter 0 line places

/-- How the lines of a text are set. -/
inductive Justify
  /-- Lines end where their text ends. -/
  | ragged
  | left
  | center
  deriving Repr, DecidableEq

/-- Sets a wrapped line. -/
def justify (how : Justify) (overflow : Overflow) (width : Nat) (line : Line) : Line :=
  match how with
  | .ragged => line
  | .left => (line.crop overflow width).padTo width
  | .center =>
      let cropped := line.strip.crop overflow width
      let shift := (width - cropped.cells) / 2
      (spaces shift .none ++ cropped).padTo width

/-- Joins neighbouring runs that have no style. -/
def mergePlain : Line → Line
  | [] => []
  | run :: rest =>
      match mergePlain rest with
      | next :: others =>
          if run.style = .none && next.style = .none then ⟨run.text ++ next.text, .none⟩ :: others
          else run :: next :: others
      | [] => [run]

/-- How a text is set into lines. -/
structure Setting where
  width : Nat
  justify : Justify := .ragged
  overflow : Overflow := .fold
  deriving Repr, DecidableEq

/-- Wraps a line. -/
def wrap (setting : Setting) (line : Line) : List Line :=
  let expanded := line.expandTabs
  let pieces := expanded.divide (breaks setting.overflow setting.width expanded.chars)
  pieces.map fun piece =>
    (((piece.trimEnd setting.width).justify setting.justify setting.overflow setting.width).crop
      setting.overflow setting.width).mergePlain

end Line

/-- A text of styled lines. -/
abbrev Styled := List Line

namespace Styled

/-- The controls that no text shows. -/
def isDropped (c : Char) : Bool :=
  c == '\x07' || c == '\x08' || c == '\x0b' || c == '\x0c' || c == '\r'

/-- The characters of a text that are kept. -/
def kept (s : List Char) : List Char :=
  s.filter fun c => !isDropped c

/-- A text of one style. -/
def ofChars (s : List Char) (style : Style) : Styled :=
  (Text.lines (kept s)).map fun line => Line.ofChars line style

/-- A text of one style. -/
def ofString (s : String) (style : Style := .none) : Styled :=
  ofChars s.toList style

/-- Two texts, one right after the other. -/
def append (first second : Styled) : Styled :=
  match first.reverse, second with
  | last :: before, next :: rest => before.reverse ++ (last ++ next) :: rest
  | _, [] => first
  | [], _ => second

/-- Several texts, one right after the other. -/
def join : List Styled → Styled
  | [] => [[]]
  | text :: rest => append text (join rest)

/-- The characters of a text. -/
def chars (text : Styled) : List Char :=
  ['\n'].intercalate (text.map Line.chars)

/-- Sets a text into lines.  Nothing can be set without a column. -/
def draw (setting : Line.Setting) (text : Styled) : List Line :=
  if setting.width = 0 then [] else text.flatMap (Line.wrap setting)

end Styled

end Parley.Terminal
