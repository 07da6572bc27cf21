import Parley.Markdown.Block
import Parley.Markdown.Inline
import Parley.Terminal.Escape

/-!
# Drawing documents

A document is drawn into lines of a given width.  Containers draw their content in
the columns beside their marks.  The blocks of the document itself are separated by
empty lines; images are written where they are met, before the text around them.
-/

namespace Parley.Markdown

open Terminal

/-! ## Styles -/

/-- The style of stressed text. -/
def Stress.style : Stress → Style
  | .emphasis => .attributes [.italic]
  | .strong => .attributes [.bold]
  | .strike => .attributes [.strike]

/-- The style of a link to an address. -/
def linkTo (address : String) : Style :=
  { link := if address.isEmpty then none else some address }

/-- The style of a span. -/
def Span.style : Span → Style
  | .stress kind => kind.style
  | .link address =>
      Style.add { on := [.underline], foreground := some (.standard 4) } (linkTo address)

/-- The style of code inside a text. -/
def codeStyle : Style :=
  { on := [.bold], foreground := some (.standard 6), background := some (.standard 0) }

/-- The style of a heading. -/
def headingStyle (level : Nat) : Style :=
  match level with
  | 1 => .attributes [.bold, .underline]
  | 2 => { on := [.underline], foreground := some (.standard 5) }
  | 3 => .boldColored (.standard 5)
  | 4 => { on := [.italic], foreground := some (.standard 5) }
  | 5 => .attributes [.italic]
  | _ => .attributes [.dim]

/-- The style of a rule. -/
def ruleStyle : Style := .attributes [.dim]

/-- The style of a quote. -/
def quoteStyle : Style := .colored (.standard 5)

/-- The style of a bullet. -/
def bulletStyle : Style := .attributes [.bold]

/-- The style of the number of an item. -/
def numberStyle : Style := .colored (.standard 6)

/-- The style behind a block of code. -/
def panelStyle : Style := .onColor (.indexed 235)

/-- The style of the text of a block of code. -/
def panelTextStyle : Style :=
  { foreground := some (.indexed 231), background := some (.indexed 235) }

/-! ## Text -/

/-- The runs of a text, given the styles that are open, the innermost one first. -/
def runs (base : Style) : List Style → List Piece → List Styled
  | _, [] => []
  | styles, piece :: rest =>
      let style := styles.headD base
      match piece with
      | .text s => Styled.ofChars s style :: runs base styles rest
      | .softBreak => Styled.ofChars [' '] style :: runs base styles rest
      | .hardBreak => Styled.ofChars ['\n'] style :: runs base styles rest
      | .code s => Styled.ofChars s (style.add codeStyle) :: runs base styles rest
      | .opens span => runs base (style.add span.style :: styles) rest
      | .closes _ => runs base (styles.drop 1) rest
      | .image _ _ => runs base styles rest

/-- The text that is shown in a style. -/
def shownText (style : Style) (found : List Piece) : Styled :=
  Styled.join (runs style [] found)

/-- The mark in front of an image. -/
def imageMark : List Char := "🌆 ".toList

/-- The last part of an address, which names an image without a label. -/
def lastPart (address : String) : List Char :=
  let s := Text.dropTailWhile (· == '/') (address.toList.dropWhile (· == '/'))
  (s.reverse.takeWhile (· != '/')).reverse

/-- An image as text. -/
def imageText (style : Style) (address : String) (label : List Char) : Styled :=
  let link : Style := { link := style.link <|> (linkTo address).link }
  let shown := Styled.kept label
  let title :=
    if shown.isEmpty then Styled.ofChars (lastPart address) link
    else Styled.ofChars shown (style.add link)
  Styled.join [Styled.ofChars imageMark .none, title, Styled.ofChars [' '] .none]

/-- The images of a text, given the styles that are open. -/
def images (base : Style) : List Style → List Piece → List Styled
  | _, [] => []
  | styles, piece :: rest =>
      let style := styles.headD base
      match piece with
      | .image address label => imageText style address label :: images base styles rest
      | .opens span => images base (style.add span.style :: styles) rest
      | .closes _ => images base (styles.drop 1) rest
      | _ => images base styles rest

/-! ## Blocks -/

/-- The lines of a block of code: an empty line above and below, and a blank on both
sides. -/
def codeLines (width : Nat) (text : List Char) : List Line :=
  let shown := Text.dropTailWhile Text.isBlank (Styled.kept text)
  let inner := width - 2
  let code := (Styled.ofChars shown panelTextStyle).draw ⟨inner, .left, .fold⟩
  let edge := Line.spaces width panelStyle
  let side := Line.spaces 1 panelStyle
  [edge] ++
    code.map (fun line => side ++ (line.under panelStyle).fill inner panelStyle ++ side) ++ [edge]

/-- Puts a mark before the first line of some lines, and other text before the rest. -/
def mark (first others : Run) : List Line → List Line
  | [] => []
  | line :: rest => (first :: line) :: rest.map fun line => others :: line

/-- Lines as the content of a container. -/
def content (width : Nat) (style : Style) (lines : List Line) : List Line :=
  lines.map fun line => (line.under style).fill width style

/-- The columns of the number of an item. -/
def numberColumns (start count : Nat) : Nat :=
  (toString (start + count)).length + 2

/-- The number of an item, right-aligned before a blank. -/
def numberText (columns number : Nat) : List Char :=
  let digits := (toString number).toList
  List.replicate (columns - 1 - digits.length) ' ' ++ digits ++ [' ']

mutual

/-- The lines of a block in a style. -/
def Block.lines (definitions : Definitions) (style : Style) (width : Nat) : Block → List Line
  | .paragraph text =>
      (shownText style (pieces definitions text)).draw ⟨width, .left, .fold⟩
  | .heading level text =>
      (shownText (style.add (headingStyle level)) (pieces definitions text)).draw
        ⟨width, if level = 1 then .center else .left, .fold⟩
  | .code text => codeLines width text
  | .rule => [Line.ofChars (List.replicate width '-') ruleStyle, []]
  | .html => []
  | .definition _ => []
  | .quote blocks =>
      let style := style.add quoteStyle
      let inner := width - 4
      let bar : Run := ⟨"▌ ".toList, style⟩
      mark bar bar (content inner style (linesOf definitions style inner blocks))
  | .list none items =>
      let bullet : Run := ⟨" • ".toList, bulletStyle⟩
      let below : Run := ⟨[' ', ' ', ' '], bulletStyle⟩
      (itemLines definitions style (width - 3) items).flatMap (mark bullet below)
  | .list (some start) items =>
      let columns := numberColumns start items.length
      let below : Run := ⟨List.replicate columns ' ', numberStyle⟩
      (itemLines definitions style (width - columns) items).zipIdx.flatMap fun (lines, index) =>
        mark ⟨numberText columns (start + index), numberStyle⟩ below lines

/-- The lines of blocks one below the other. -/
def linesOf (definitions : Definitions) (style : Style) (width : Nat) : List Block → List Line
  | [] => []
  | block :: rest =>
      (if width = 0 then [] else block.lines definitions style width) ++
        linesOf definitions style width rest

/-- The lines of each item of a list. -/
def itemLines (definitions : Definitions) (style : Style) (width : Nat) :
    List (List Block) → List (List Line)
  | [] => []
  | blocks :: rest =>
      content width style (linesOf definitions style width blocks) ::
        itemLines definitions style width rest

end

/-! ## Documents -/

/-- What was drawn of a document. -/
structure Canvas where
  /-- The lines that are complete. -/
  done : List Line := []
  /-- The line that is being written. -/
  current : Line := []
  /-- Whether an empty line comes before what is drawn next. -/
  gap : Bool := false

namespace Canvas

/-- Ends the current line. -/
def newLine (canvas : Canvas) : Canvas :=
  { canvas with done := canvas.done ++ [canvas.current], current := [] }

/-- Starts a new line if one is asked for. -/
def separate (canvas : Canvas) : Canvas :=
  if canvas.gap then canvas.newLine else canvas

/-- Writes complete lines. -/
def write (canvas : Canvas) (lines : List Line) : Canvas :=
  lines.foldl (fun (canvas : Canvas) line =>
    ({ canvas with current := canvas.current ++ line } : Canvas).newLine) canvas

/-- Writes an image.  What is drawn next goes on in its last line. -/
def writeImage (width : Nat) (canvas : Canvas) (image : Styled) : Canvas :=
  let canvas := canvas.separate
  let lines := image.draw ⟨width, .ragged, .fold⟩
  let drawn := canvas.write lines.dropLast
  { drawn with current := drawn.current ++ lines.getLast?.getD [], gap := false }

/-- Reads a text: its images are written, and an empty text asks for a gap. -/
def passText (definitions : Definitions) (width : Nat) (style : Style) (text : List Char)
    (canvas : Canvas) : Canvas :=
  if text.isEmpty then { canvas with gap := true }
  else (images style [] (pieces definitions text)).foldl (writeImage width) canvas

end Canvas

mutual

/-- What becomes of a canvas while a block is read: its images are written, and every
block inside it asks for a gap, except rules. -/
def Block.pass (definitions : Definitions) (style : Style) (width : Nat) (canvas : Canvas) :
    Block → Canvas
  | .paragraph text => { canvas.passText definitions width style text with gap := true }
  | .heading level text =>
      { canvas.passText definitions width (style.add (headingStyle level)) text with gap := true }
  | .code _ => { canvas with gap := true }
  | .html => { canvas with gap := true }
  | .rule => { canvas with gap := false }
  | .definition _ => canvas
  | .quote blocks =>
      { passAll definitions (style.add quoteStyle) width canvas blocks with gap := true }
  | .list _ items => { passItems definitions style width canvas items with gap := true }

/-- What becomes of a canvas while blocks are read. -/
def passAll (definitions : Definitions) (style : Style) (width : Nat) (canvas : Canvas) :
    List Block → Canvas
  | [] => canvas
  | block :: rest =>
      passAll definitions style width (block.pass definitions style width canvas) rest

/-- What becomes of a canvas while the items of a list are read. -/
def passItems (definitions : Definitions) (style : Style) (width : Nat) (canvas : Canvas) :
    List (List Block) → Canvas
  | [] => canvas
  | blocks :: rest =>
      let canvas := passAll definitions style width canvas blocks
      passItems definitions style width { canvas with gap := true } rest

end

/-- The canvas right before a block of the document is drawn. -/
def Block.before (definitions : Definitions) (width : Nat) (canvas : Canvas) : Block → Canvas
  | .paragraph text => canvas.passText definitions width .none text
  | .heading level text => canvas.passText definitions width (headingStyle level) text
  | .quote blocks => passAll definitions quoteStyle width canvas blocks
  | .list _ items => passItems definitions .none width canvas items
  | _ => canvas

/-- Draws a block of the document. -/
def Block.draw (definitions : Definitions) (width : Nat) (canvas : Canvas) (block : Block) :
    Canvas :=
  match block with
  | .definition _ => canvas
  | _ =>
      let drawn := ((block.before definitions width canvas).separate).write
        (block.lines definitions .none width)
      { drawn with gap := match block with | .rule => false | _ => true }

/-- The lines of a document at a width of at least one column. -/
def documentLines (s : String) (width : Nat) : List Line :=
  let blocks := blocksOf s
  let canvas := blocks.foldl (Block.draw (definitionsIn blocks) width) {}
  (canvas.newLine.done).map (Line.limit width)

/-- A document as a terminal with colours shows it at a width, without empty lines at
its end. -/
def render (s : String) (width : Int) : String :=
  let lines := documentLines s (max width 1).toNat
  String.ofList (Text.dropTailWhile (· == '\n') (['\n'].intercalate (lines.map (Line.write true))))

end Parley.Markdown
