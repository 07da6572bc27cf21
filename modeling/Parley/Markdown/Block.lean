import Parley.Markdown.Html
import Parley.Markdown.Link
import Parley.Number.Natural

/-!
# Block structure

A document is a sequence of blocks: paragraphs, headings, code, rules, and quotes
and lists, which hold blocks again.  Rows are read from top to bottom.  A container
passes the rows below its start to its content, each without what belongs to the
container, and takes up again where the content ends.
-/

namespace Parley.Markdown

/-- A block.  The text of paragraphs and headings is not read yet. -/
inductive Block
  | paragraph (text : List Char)
  | heading (level : Nat) (text : List Char)
  | code (text : List Char)
  | rule
  | html
  | definition (d : Definition)
  | quote (blocks : List Block)
  /-- A list with the number of its first item, or with bullets. -/
  | list (start : Option Nat) (items : List (List Block))

/-! ## Rows -/

/-- A row of a container. -/
structure Row where
  /-- The blanks between the edge of the container and the text. -/
  lead : List Char
  text : List Char
  /-- The column of the text, or −1 if the row only continues a paragraph. -/
  indent : Int
  /-- The columns on the left of the edge of the container. -/
  base : Nat
  deriving Repr, DecidableEq

/-- The columns of a tab stop. -/
def tabStop : Nat := 4

/-- The column after blanks, in a container with `base` columns on its left. -/
def advance (base : Nat) : Nat → List Char → Nat
  | column, [] => column
  | column, c :: rest =>
      advance base
        (if c = '\t' then column + (tabStop - (column + base) % tabStop) else column + 1) rest

namespace Row

/-- The row of a line of a document. -/
def ofLine (line : List Char) : Row :=
  let lead := line.takeWhile isSpace
  ⟨lead, line.drop lead.length, advance 0 0 lead, 0⟩

/-- Whether a row holds no text. -/
def isBlank (row : Row) : Bool :=
  row.text.isEmpty

/-- Blanks without their first `columns` columns, given the column reached; a tab that
is cut leaves spaces. -/
def cutBlanks (base columns : Nat) : Nat → List Char → List Char
  | column, [] => List.replicate (column - columns) ' '
  | column, c :: rest =>
      if columns ≤ column then List.replicate (column - columns) ' ' ++ c :: rest
      else
        cutBlanks base columns
          (if c = '\t' then column + (tabStop - (column + base) % tabStop) else column + 1) rest

/-- The text of a row with the blanks that are beyond `columns`. -/
def dedent (columns : Nat) (row : Row) : List Char :=
  cutBlanks row.base columns 0 row.lead ++ row.text

/-- The row behind the mark of a quote, given what follows the mark.  One blank after
the mark belongs to it, and of a tab only one column. -/
def quoted (row : Row) (after : List Char) : Row :=
  let start := row.indent.toNat + 1
  let (column, shift, inner) := match after with
    | ' ' :: rest => (start + 1, 0, rest)
    | '\t' :: rest =>
        if (row.base + start) % tabStop = 3 then (start + 1, 0, rest) else (start, 1, after)
    | _ => (start, 0, after)
  let lead := inner.takeWhile isSpace
  { lead
    text := inner.drop lead.length
    indent := advance (row.base + shift) column lead - column
    base := if after.head?.any isSpace then start + 1 else start }

end Row

/-! ## Where blocks start -/

/-- Where in the document rows are read. -/
structure Place where
  /-- The column at which the content of the innermost item starts. -/
  indent : Nat
  /-- That of the list around it, inside a list. -/
  listIndent : Option Nat
  /-- How many containers there are around it. -/
  depth : Nat

/-- How deep containers may be nested. -/
def maxDepth : Nat := 20

namespace Place

/-- Whether a row is indented as code. -/
def isCode (place : Place) (row : Row) : Bool :=
  (tabStop : Int) ≤ row.indent - place.indent

end Place

/-- The mark around a block of code. -/
structure Fence where
  mark : Char
  size : Nat
  deriving Repr, DecidableEq

/-- The fence that opens on a row. -/
def fence? (place : Place) (row : Row) : Option Fence :=
  match row.text with
  | mark :: _ =>
      let size := (row.text.takeWhile (· == mark)).length
      if !place.isCode row && 3 ≤ size &&
          (mark = '~' || (mark = '\x60' && !(row.text.drop size).contains mark)) then
        some ⟨mark, size⟩
      else none
  | [] => none

/-- Whether a row closes a fence. -/
def Fence.isClosedBy (fence : Fence) (place : Place) (row : Row) : Bool :=
  let size := (row.text.takeWhile (· == fence.mark)).length
  !place.isCode row && fence.size ≤ size && (row.text.drop size).all isSpace

/-- Whether a row begins a quote. -/
def startsQuote (place : Place) (row : Row) : Bool :=
  !place.isCode row && row.text.head? == some '>'

/-- Whether a row is a rule. -/
def isRule (place : Place) (row : Row) : Bool :=
  match row.text with
  | mark :: _ =>
      !place.isCode row && (mark == '*' || mark == '-' || mark == '_') &&
        row.text.all (fun c => c == mark || isSpace c) && 3 ≤ (row.text.filter (· == mark)).length
  | [] => false

/-- The mark of a list item. -/
structure ListMark where
  number : Option Nat
  /-- Its last character. -/
  mark : Char
  size : Nat
  deriving Repr, DecidableEq

/-- The most digits in the number of an item. -/
def maxItemDigits : Nat := 9

/-- The mark at the start of a text. -/
def listMark? (text : List Char) : Option ListMark :=
  let digits := text.takeWhile Char.isDigit
  match text.drop digits.length with
  | mark :: rest =>
      let ended := rest.isEmpty || rest.head?.any isSpace
      if digits.isEmpty then
        if ended && (mark = '*' || mark = '-' || mark = '+') then some ⟨none, mark, 1⟩ else none
      else if ended && digits.length ≤ maxItemDigits && (mark = '.' || mark = ')') then
        some ⟨some (valueOf 10 digits), mark, digits.length + 1⟩
      else none
  | [] => none

/-- The mark of the item that begins on a row.  A row far on the right of the list, but
on the left of its content, begins no item. -/
def item? (place : Place) (row : Row) : Option ListMark :=
  if place.isCode row ||
      (place.listIndent.any (fun (n : Nat) => 4 ≤ row.indent - n) &&
        row.indent < place.indent) then none
  else listMark? row.text

/-- Whether an item may begin right after the text of a paragraph. -/
def ListMark.interrupts (mark : ListMark) (place : Place) (row : Row) : Bool :=
  row.indent < place.indent ||
    (mark.number.all (· == 1) && !(row.text.drop mark.size).all isSpace)

/-- A heading of a row: its level and its text. -/
def heading? (place : Place) (row : Row) : Option (Nat × List Char) :=
  let level := (row.text.takeWhile (· == '#')).length
  let rest := row.text.drop level
  if place.isCode row || level = 0 || 6 < level || rest.head?.any (fun c => !isSpace c) then none
  else
    let text := Text.dropTailWhile isSpace rest
    let uncut := Text.dropTailWhile (· == '#') text
    some (level, Text.strip (if uncut.getLast?.any isSpace then uncut else text))

/-- The HTML block that begins on a row. -/
def html? (place : Place) (row : Row) : Option HtmlKind :=
  if place.isCode row then none else htmlStart? row.text

/-- Whether a row begins a fence, a quote or a rule, which end every other block. -/
def endsList (place : Place) (row : Row) : Bool :=
  (fence? place row).isSome || startsQuote place row || isRule place row

/-- Whether a row that a quote or a definition could go on with begins a block. -/
def endsQuote (place : Place) (row : Row) : Bool :=
  endsList place row || (item? place row).isSome || (html? place row).any HtmlKind.interrupts ||
    (heading? place row).isSome

/-- Whether a row that a paragraph could go on with begins a block. -/
def endsParagraph (place : Place) (row : Row) : Bool :=
  endsList place row || (item? place row).any (fun mark => mark.interrupts place row) ||
    (html? place row).any HtmlKind.interrupts || (heading? place row).isSome

/-- Whether a row goes on with a block that ends where another block begins.  Rows that
are indented as code, and those that can only continue a paragraph, begin none. -/
def continues (ends : Place → Row → Bool) (place : Place) (row : Row) : Bool :=
  !row.isBlank && (place.isCode row || row.indent < 0 || !ends place row)

/-! ## Blocks without blocks inside -/

/-- The lines of some rows as one text. -/
def joinRows (columns : Nat) (rows : List Row) : List Char :=
  ['\n'].intercalate (rows.map (Row.dedent columns))

/-- The rows of indented code, and the rest. -/
def takeCode (place : Place) (rows : List Row) : List Row × List Row :=
  let found := Text.dropTailWhile Row.isBlank
    (rows.takeWhile fun row => row.isBlank || place.isCode row)
  (found, rows.drop found.length)

/-- The rows inside a fence, and the rest after it.  A fence that is not closed ends with
its container. -/
def takeFenced (fence : Fence) (place : Place) : List Row → List Row × List Row
  | [] => ([], [])
  | row :: rest =>
      if !row.isBlank && row.indent < place.indent then ([], row :: rest)
      else if fence.isClosedBy place row then ([], rest)
      else
        let (rows, after) := takeFenced fence place rest
        (row :: rows, after)

/-- The rest after the rows of an HTML block. -/
def afterHtml (kind : HtmlKind) (place : Place) : List Row → List Row
  | [] => []
  | row :: rest =>
      if row.indent < place.indent then row :: rest
      else if kind.isEnd row.text then (if row.isBlank then row :: rest else rest)
      else afterHtml kind place rest

/-- The level of the heading that a row makes of the rows above it. -/
def underline? (row : Row) : Option Nat :=
  match row.text with
  | mark :: _ =>
      if (mark = '=' || mark = '-') && (row.text.dropWhile (· == mark)).all isSpace then
        some (if mark = '=' then 1 else 2)
      else none
  | [] => none

/-- How many rows stand above the row that makes them a heading, and its level. -/
def underlined? (place : Place) : List Row → Option (Nat × Nat)
  | [] => none
  | row :: rest =>
      let next := (underlined? place rest).map fun (count, level) => (count + 1, level)
      if row.isBlank then none
      else if place.isCode row then next
      else
        match if row.indent < place.indent then none else underline? row with
        | some level => some (0, level)
        | none => if row.indent < 0 || !endsParagraph place row then next else none

/-- The definition that begins on a row, and the rest. -/
def takeDefinition? (place : Place) (row : Row) (rest : List Row) :
    Option (Definition × List Row) :=
  let more := rest.takeWhile (continues endsQuote place)
  let text := ['\n'].intercalate ((row :: more).map Row.text)
  (definition? text).map fun (d, left) =>
    (d, rest.drop (more.length - left.count '\n'))

/-- The block without blocks inside that begins on a row, and the rest. -/
def takeLeaf (place : Place) (row : Row) (rest : List Row) : Block × List Row :=
  match takeDefinition? place row rest, html? place row, heading? place row,
      underlined? place rest with
  | some (d, rest), _, _, _ => (.definition d, rest)
  | none, some kind, _, _ =>
      (.html, if kind.isEnd row.text then rest else afterHtml kind place rest)
  | none, none, some (level, text), _ => (.heading level text, rest)
  | none, none, none, some (count, level) =>
      (.heading level (Text.strip (joinRows place.indent (row :: rest.take count))),
        rest.drop (count + 1))
  | none, none, none, none =>
      let more := rest.takeWhile (continues endsParagraph place)
      (.paragraph (Text.strip (joinRows place.indent (row :: more))), rest.drop more.length)

/-! ## Containers -/

/-- The rows of a quote, as they are inside it.  Text without a mark continues the quote
unless the row above is empty or it begins a block. -/
def quotedRows (place : Place) (lastEmpty : Bool) : List Row → List Row
  | [] => []
  | row :: rest =>
      match row.text with
      | [] => []
      | c :: after =>
          if c = '>' && (place.indent : Int) ≤ row.indent then
            let inner := row.quoted after
            inner :: quotedRows place inner.isBlank rest
          else if lastEmpty || endsQuote place row then []
          else { row with indent := -1 } :: quotedRows place false rest

/-- The row behind the mark of an item, and the column at which the content of the item
starts.  Content that is indented as code starts one column after the mark. -/
def itemRow (mark : ListMark) (row : Row) : Row × Nat :=
  let start := row.indent.toNat + mark.size
  let inner := row.text.drop mark.size
  let blanks := inner.takeWhile isSpace
  let text := inner.drop blanks.length
  let column := advance row.base start blanks
  let gap := if text.isEmpty || column - start > 4 then 1 else column - start
  let covered := row.lead ++ List.replicate mark.size ' ' ++ blanks
  (⟨covered, text, column, row.base⟩, start + gap)

/-- The mark of the next item of a list, if the list goes on. -/
def nextItem? (place : Place) (mark : ListMark) (row : Row) : Option ListMark :=
  if row.indent < place.indent || place.isCode row || endsList place row then none
  else
    (listMark? row.text).filter fun next =>
      next.mark == mark.mark && next.number.isSome == mark.number.isSome

mutual

/-- Reads blocks and returns what is left of the rows; `fuel` bounds the steps. -/
def readBlocks : Nat → Place → List Row → List Block × List Row
  | 0, _, rows => ([], rows)
  | fuel + 1, place, rows =>
      match rows.dropWhile Row.isBlank with
      | [] => ([], [])
      | row :: rest =>
          if row.indent < place.indent then ([], row :: rest)
          else if maxDepth ≤ place.depth then ([], [])
          else
            let (block, left) :=
              if place.isCode row then
                let (code, left) := takeCode place (row :: rest)
                (Block.code (joinRows (4 + place.indent) code), left)
              else
                match fence? place row with
                | some fence =>
                    let (code, left) := takeFenced fence place rest
                    (.code (joinRows row.indent.toNat code), left)
                | none =>
                    if startsQuote place row then
                      let inner := quotedRows place false (row :: rest)
                      let (blocks, left) :=
                        readBlocks fuel { place with indent := 0, depth := place.depth + 1 } inner
                      (.quote blocks, (row :: rest).drop (inner.length - left.length))
                    else if isRule place row then (.rule, rest)
                    else
                      match item? place row with
                      | some mark =>
                          let (items, left) := readItems fuel place mark row rest
                          (.list mark.number items, left)
                      | none => takeLeaf place row rest
            let (blocks, left) := readBlocks fuel place left
            (block :: blocks, left)

/-- Reads the items of a list, of which the first begins on a row. -/
def readItems : Nat → Place → ListMark → Row → List Row → List (List Block) × List Row
  | 0, _, _, _, rest => ([], rest)
  | fuel + 1, place, mark, row, rest =>
      let (first, column) := itemRow mark row
      let (blocks, left) :=
        if first.isBlank && rest.head?.all Row.isBlank then ([], rest.drop 1)
        else readBlocks fuel ⟨column, some place.indent, place.depth + 2⟩ (first :: rest)
      match left with
      | [] => ([blocks], [])
      | row :: rest =>
          match nextItem? place mark row with
          | some mark =>
              let (items, left) := readItems fuel place mark row rest
              (blocks :: items, left)
          | none => ([blocks], row :: rest)

end

/-! ## Documents -/

/-- Text with line feeds as its only line ends, and without null characters. -/
def plainEnds : List Char → List Char
  | [] => []
  | '\r' :: '\n' :: rest => '\n' :: plainEnds rest
  | '\r' :: rest => '\n' :: plainEnds rest
  | c :: rest => (if c = '\x00' then '\ufffd' else c) :: plainEnds rest

/-- The rows of a document.  Blanks after the last line end are no row. -/
def documentRows (s : String) : List Row :=
  let rows := (Text.lines (plainEnds s.toList)).map Row.ofLine
  if rows.getLast?.any Row.isBlank then rows.dropLast else rows

/-- The blocks of a document. -/
def blocksOf (s : String) : List Block :=
  let rows := documentRows s
  let size := sumOf (rows.map fun row => row.lead.length + row.text.length + 2)
  (readBlocks (2 * size + 2) ⟨0, none, 0⟩ rows).1

mutual

/-- The definitions in a block. -/
def Block.definitions : Block → Definitions
  | .definition d => [d]
  | .quote blocks => definitionsIn blocks
  | .list _ items => definitionsInItems items
  | _ => []

/-- The definitions in blocks, in their order. -/
def definitionsIn : List Block → Definitions
  | [] => []
  | block :: rest => block.definitions ++ definitionsIn rest

/-- The definitions in the items of a list. -/
def definitionsInItems : List (List Block) → Definitions
  | [] => []
  | blocks :: rest => definitionsIn blocks ++ definitionsInItems rest

end

end Parley.Markdown
