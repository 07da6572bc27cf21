import Parley.Terminal.Console
import Parley.Wire.Lines

/-!
# Layout

A drawing can be measured and drawn at any width.  Texts and rules are drawings;
a grid puts drawings into rows and columns, and a panel puts a border around one.
The columns of a grid share its width by their ratios, or by what they hold; what
is too wide is taken from the widest columns first.
-/

namespace Parley.Terminal

/-- The least and the greatest width that a drawing can make use of. -/
structure Extent where
  least : Nat
  most : Nat
  deriving Repr, DecidableEq

namespace Extent

/-- An extent within `width` cells. -/
def within (width : Nat) (e : Extent) : Extent :=
  let most := min e.most width
  ⟨min (min e.least width) most, most⟩

/-- An extent with cells added on both counts. -/
def plus (cells : Nat) (e : Extent) : Extent :=
  ⟨e.least + cells, e.most + cells⟩

end Extent

/-- Something that can be drawn at any width. -/
structure Drawing where
  measure : Nat → Extent
  draw : Line.Setting → List Line

namespace Drawing

/-- Measures a drawing where there is a column at all. -/
def extent (drawing : Drawing) (width : Nat) : Extent :=
  if width = 0 then ⟨0, 0⟩ else (drawing.measure width).within width

/-- Draws where there is a column at all. -/
def lines (drawing : Drawing) (setting : Line.Setting) : List Line :=
  if setting.width = 0 then [] else drawing.draw setting

/-- Draws lines of exactly the given width, on a style. -/
def filled (drawing : Drawing) (style : Style) (setting : Line.Setting) : List Line :=
  (drawing.lines setting).map fun line => (line.under style).fill setting.width style

/-- The greatest of the widths of some texts. -/
def widest (texts : List (List Char)) : Nat :=
  (texts.map Text.cellLen).foldl max 0

/-- A styled text as a drawing.  It can be as narrow as its widest word and as wide as
its widest line. -/
def ofStyled (text : Styled) : Drawing where
  measure _ :=
    let chars := text.chars
    let most := widest ((Wire.splitLines chars).map String.toList)
    let words := Text.words chars
    ⟨if words.isEmpty then most else widest words, most⟩
  draw setting := text.draw setting

/-- A horizontal rule. -/
def rule (style : Style) : Drawing where
  measure _ := ⟨1, 1⟩
  draw setting := [Line.ofChars (List.replicate setting.width '─') style]

/-- A drawing with blank cells on both sides. -/
def padded (left right : Nat) (drawing : Drawing) : Drawing where
  measure width :=
    if width < left + right + 1 then ⟨width, width⟩
    else ((drawing.extent (width - (left + right))).plus (left + right)).within width
  draw setting :=
    let inner := { setting with width := setting.width - (left + right) }
    (drawing.filled .none inner).map fun line =>
      Line.spaces left .none ++ line ++ Line.spaces right .none

/-! ## Sharing widths -/

/-- A quotient rounded up. -/
def ceilDiv (n d : Nat) : Nat :=
  (n + d - 1) / d

/-- A quotient rounded to the nearest number, a half to the even one. -/
def roundDiv (n d : Nat) : Nat :=
  let q := n / d
  let r := n % d
  if d < 2 * r || (2 * r = d && q % 2 = 1) then q + 1 else q

/-- Distributes cells by ratios, with a minimum for each share. -/
def distribute (total ratioSum : Nat) : List (Nat × Nat) → List Nat
  | [] => []
  | (ratio, least) :: rest =>
      let share := if ratioSum = 0 then total else max least (ceilDiv (ratio * total) ratioSum)
      share :: distribute (total - share) (ratioSum - ratio) rest

/-- Takes cells away by ratios, at most `most` from each width. -/
def reduceBy (total ratioSum most : Nat) : List (Nat × Nat) → List Nat
  | [] => []
  | (ratio, width) :: rest =>
      if ratio = 0 || ratioSum = 0 then width :: reduceBy total ratioSum most rest
      else
        let share := min (min most width) (roundDiv (ratio * total) ratioSum)
        (width - share) :: reduceBy (total - share) (ratioSum - ratio) most rest

/-- Takes cells away from the widest columns until the widths fit; `fuel` bounds the
rounds. -/
def collapse (limit : Nat) : Nat → List Nat → List Nat
  | 0, widths => widths
  | fuel + 1, widths =>
      let excess := sumOf widths - limit
      if excess = 0 then widths
      else
        let top := widths.foldl max 0
        let second := (widths.filter (· != top)).foldl max 0
        let gap := top - second
        if gap = 0 then widths
        else
          let marked := widths.map fun w => (if w = top then 1 else 0, w)
          let count := sumOf (marked.map Prod.fst)
          collapse limit fuel (reduceBy excess count (min excess gap) marked)

end Drawing

/-- A column of a grid. -/
structure Column where
  style : Style := .none
  ratio : Option Nat := none
  deriving Repr, DecidableEq

/-- Drawings in rows and columns.  Between two columns there are `gap` blank cells. -/
structure Grid where
  columns : List Column
  gap : Nat
  /-- Whether the grid takes the whole width. -/
  expand : Bool
  rows : List (List Drawing)

namespace Grid

/-- The blank cells that a column is reckoned with on top of what it holds. -/
def reckonedGap (grid : Grid) (index : Nat) : Nat :=
  if index = 0 then 2 * grid.gap else grid.gap

/-- A cell: its drawing, with the gap after it unless it is the last in its row. -/
def cell (grid : Grid) (index : Nat) (drawing : Drawing) : Drawing :=
  if grid.gap = 0 then drawing
  else drawing.padded 0 (if index + 1 = grid.columns.length then 0 else grid.gap)

/-- The cells of a column. -/
def columnCells (grid : Grid) (index : Nat) : List Drawing :=
  grid.rows.filterMap fun row => row[index]?.map (grid.cell index)

/-- The extent of a column. -/
def columnExtent (grid : Grid) (width index : Nat) : Extent :=
  if width = 0 then ⟨0, 0⟩
  else
    let extents := (grid.columnCells index).map fun cell => cell.extent width
    if extents.isEmpty then ⟨min 1 width, width⟩
    else
      (Extent.mk ((extents.map Extent.least).foldl max 0)
        ((extents.map Extent.most).foldl max 0)).within width

/-- The widths of the columns by what they hold or by their ratios. -/
def wishedWidths (grid : Grid) (width : Nat) : List Nat :=
  let wished := grid.columns.zipIdx.map fun (_, index) =>
    max 1 (grid.columnExtent width index).most
  let ratios := grid.columns.filterMap Column.ratio
  if grid.expand && ratios.any (· != 0) then
    let fixed := grid.columns.zipIdx.map fun (column, index) =>
      if column.ratio.isSome then 0 else (grid.columnExtent width index).most
    let wanted := grid.columns.zipIdx.filterMap fun (column, index) =>
      column.ratio.map fun ratio => (ratio, 1 + grid.reckonedGap index)
    let shares := Drawing.distribute (width - sumOf fixed) (sumOf ratios) wanted
    let rec place : List Column → List Nat → List Nat → List Nat
      | column :: columns, w :: widths, shares =>
          match column.ratio, shares with
          | some _, share :: shares => share :: place columns widths shares
          | _, _ => w :: place columns widths shares
      | _, _, _ => []
    place grid.columns wished shares
  else wished

/-- The widths of the columns in a grid of `width` cells. -/
def widths (grid : Grid) (width : Nat) : List Nat :=
  let wished := grid.wishedWidths width
  let fitted :=
    if sumOf wished ≤ width then wished
    else
      let collapsed := Drawing.collapse width (sumOf wished + 1) wished
      let reduced :=
        if sumOf collapsed ≤ width then collapsed
        else
          Drawing.reduceBy (sumOf collapsed - width) collapsed.length (sumOf collapsed)
            (collapsed.map fun w => (1, w))
      reduced.zipIdx.map fun (w, index) => (grid.columnExtent w index).most
  let used := if sumOf wished ≤ width then sumOf wished else min (sumOf wished) width
  if grid.expand && used < width then
    List.zipWith (· + ·) fitted
      (Drawing.distribute (width - used) (sumOf fitted) (fitted.map fun w => (w, 0)))
  else fitted

/-- Lines as a block of the given width and height. -/
def shape (width height : Nat) (style : Style) (lines : List Line) : List Line :=
  lines ++ List.replicate (height - lines.length) (Line.spaces width style)

/-- Lines side by side. -/
def beside (first second : List Line) : List Line :=
  List.zipWith (· ++ ·) first second

/-- Draws a row at given column widths. -/
def drawRow (grid : Grid) (widths : List Nat) (row : List Drawing) : List Line :=
  let cells := (row.zip (widths.zip grid.columns)).zipIdx
  let blocks := cells.map fun ((drawing, width, column), index) =>
    (width, column.style, (grid.cell index drawing).filled column.style ⟨width, .left, .ellipsis⟩)
  let height := (blocks.map fun block => block.2.2.length).foldl max 1
  (blocks.map fun (width, style, lines) => shape width height style lines).foldr beside
    (List.replicate height [])

/-- A grid as a drawing. -/
def drawing (grid : Grid) : Drawing where
  measure width :=
    let total := sumOf (grid.widths width)
    let extents := grid.columns.zipIdx.map fun (_, index) => grid.columnExtent total index
    ⟨sumOf (extents.map Extent.least), sumOf (extents.map Extent.most)⟩
  draw setting := grid.rows.flatMap (grid.drawRow (grid.widths setting.width))

end Grid

/-- A drawing in a rounded border, with one blank cell on both sides. -/
def panel (style : Style) (content : Drawing) : Drawing where
  measure width := ((content.padded 1 1).extent (width - 2)).plus 2
  draw setting :=
    let inner := setting.width - 2
    let bar := List.replicate inner '─'
    let side : Line := [⟨['│'], style⟩]
    [Line.ofChars ('╭' :: bar ++ ['╮']) style] ++
      ((content.padded 1 1).filled .none { setting with width := inner }).map
        (fun line => side ++ line ++ side) ++
      [Line.ofChars ('╰' :: bar ++ ['╯']) style]

end Parley.Terminal
