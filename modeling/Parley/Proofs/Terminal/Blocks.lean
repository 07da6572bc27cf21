import Parley.Proofs.Terminal.Fitting
import Parley.Terminal.Layout

/-!
# Blocks of rows

Drawings that fit are put together without a loss: a block that is padded, filled up, stacked on
another or set beside it keeps the words of its rows, and the texts that it holds in one style.
-/

namespace Parley.Terminal

open Text (isBlank)

namespace Line

/-! ## Texts within a line -/

/-- Whether a text stands in a line in one style. -/
def Holds (text : List Char) (line : Line) : Prop :=
  ∃ run ∈ line, text <:+: run.text

variable {text : List Char} {first second line : Line}

theorem Holds.append_left (h : first.Holds text) (second : Line) :
    (first ++ second).Holds text := by
  obtain ⟨run, hrun, htext⟩ := h
  exact ⟨run, List.mem_append_left second hrun, htext⟩

theorem Holds.append_right (h : second.Holds text) (first : Line) :
    (first ++ second).Holds text := by
  obtain ⟨run, hrun, htext⟩ := h
  exact ⟨run, List.mem_append_right first hrun, htext⟩

theorem Holds.under (h : line.Holds text) (style : Style) : (line.under style).Holds text := by
  obtain ⟨run, hrun, htext⟩ := h
  exact ⟨_, List.mem_map_of_mem hrun, htext⟩

/-- A run that is joined with others stays within one. -/
theorem exists_mem_mergePlain {run : Run} (hrun : run ∈ line) :
    ∃ found ∈ line.mergePlain, run.text <:+: found.text := by
  fun_induction Line.mergePlain line with
  | case1 => exact absurd hrun List.not_mem_nil
  | case2 first rest next others hmerged hplain ih =>
      obtain rfl | hrest := List.mem_cons.mp hrun
      · exact ⟨_, List.mem_cons_self, (List.prefix_append _ _).isInfix⟩
      · obtain ⟨found, hfound, hinside⟩ := ih hrest
        rw [hmerged] at hfound
        obtain rfl | hfound := List.mem_cons.mp hfound
        · exact ⟨_, List.mem_cons_self, hinside.trans (List.suffix_append _ _).isInfix⟩
        · exact ⟨found, List.mem_cons_of_mem _ hfound, hinside⟩
  | case3 first rest next others hmerged hplain ih =>
      obtain rfl | hrest := List.mem_cons.mp hrun
      · exact ⟨_, List.mem_cons_self, List.infix_refl _⟩
      · obtain ⟨found, hfound, hinside⟩ := ih hrest
        exact ⟨found, List.mem_cons_of_mem _ (hmerged ▸ hfound), hinside⟩
  | case4 first rest hmerged ih =>
      obtain rfl | hrest := List.mem_cons.mp hrun
      · exact ⟨_, List.mem_cons_self, List.infix_refl _⟩
      · obtain ⟨found, hfound, -⟩ := ih hrest
        exact absurd (hmerged ▸ hfound) List.not_mem_nil

theorem Holds.mergePlain (h : line.Holds text) : line.mergePlain.Holds text := by
  obtain ⟨run, hrun, htext⟩ := h
  obtain ⟨found, hfound, hinside⟩ := exists_mem_mergePlain hrun
  exact ⟨found, hfound, htext.trans hinside⟩

/-- Escape sequences stand around a run. -/
theorem infix_write (run : Run) (colored : Bool) : run.text <:+: run.write colored := by
  rw [Run.write]
  split
  case isTrue => exact List.infix_refl _
  case isFalse =>
      have hstyled (codes : List Nat) : run.text <:+:
          if codes.isEmpty then run.text
          else escapeChar :: '[' :: (String.intercalate ";" (codes.map toString)).toList ++
            'm' :: run.text ++ [escapeChar, '[', '0', 'm'] := by
        split
        case isTrue => exact List.infix_refl _
        case isFalse =>
            refine (List.suffix_cons 'm' run.text).isInfix.trans ?_
            exact List.infix_append _ _ _
      split
      · exact (hstyled _).trans (List.infix_append _ _ _)
      · exact hstyled _

theorem Holds.infix_write (h : line.Holds text) (colored : Bool) :
    text <:+: line.write colored := by
  obtain ⟨run, hrun, htext⟩ := h
  refine (htext.trans (Line.infix_write run colored)).trans ?_
  rw [write, List.flatMap_def]
  exact List.infix_of_mem_flatten (List.mem_map_of_mem hrun)

end Line

/-! ## Rows -/

/-- Lines within a width, the words of each of them, and texts that they hold. -/
structure IsBlock (width : Nat) (rows : List (List (List Char))) (held : List (List Char))
    (lines : List Line) : Prop where
  words : lines.map (fun line => Text.words line.chars) = rows
  cells : ∀ line ∈ lines, line.runCells ≤ width
  held : ∀ text ∈ held, ∃ line ∈ lines, line.Holds text

/-- Lines of which each ends in a blank. -/
def AreOpen (lines : List Line) : Prop :=
  ∀ line ∈ lines, ∃ c ∈ line.chars.getLast?, isBlank c = true

/-- Lines of which each begins with a blank. -/
def AreIndented (lines : List Line) : Prop :=
  ∀ line ∈ lines, ∃ c ∈ line.chars.head?, isBlank c = true

variable {width : Nat} {rows otherRows : List (List (List Char))}
  {held otherHeld : List (List Char)} {lines others : List Line}

theorem isBlock_nil (width : Nat) : IsBlock width [] [] [] where
  words := rfl
  cells := fun _ hmem => absurd hmem List.not_mem_nil
  held := fun _ hmem => absurd hmem List.not_mem_nil

theorem IsBlock.append (h : IsBlock width rows held lines)
    (hother : IsBlock width otherRows otherHeld others) :
    IsBlock width (rows ++ otherRows) (held ++ otherHeld) (lines ++ others) where
  words := by rw [List.map_append, h.words, hother.words]
  cells := List.forall_mem_append.mpr ⟨h.cells, hother.cells⟩
  held := by
    refine List.forall_mem_append.mpr ⟨fun text htext => ?_, fun text htext => ?_⟩
    · obtain ⟨line, hline, hholds⟩ := h.held text htext
      exact ⟨line, List.mem_append_left others hline, hholds⟩
    · obtain ⟨line, hline, hholds⟩ := hother.held text htext
      exact ⟨line, List.mem_append_right lines hline, hholds⟩

/-- A block is one at any greater width, and with fewer texts. -/
theorem IsBlock.mono (h : IsBlock width rows held lines) {total : Nat} (hwidth : width ≤ total)
    (hheld : otherHeld ⊆ held) : IsBlock total rows otherHeld lines where
  words := h.words
  cells := fun line hline => (h.cells line hline).trans hwidth
  held := fun text htext => h.held text (hheld htext)

/-- Lines that are changed one by one keep their words and texts, if blanks alone come in. -/
theorem IsBlock.map (h : IsBlock width rows held lines) {f : Line → Line} {total : Nat}
    (hwords : ∀ line ∈ lines, Text.words (f line).chars = Text.words line.chars)
    (hcells : ∀ line ∈ lines, (f line).runCells ≤ total)
    (hholds : ∀ line ∈ lines, ∀ text, line.Holds text → (f line).Holds text) :
    IsBlock total rows held (lines.map f) where
  words := by
    rw [← h.words, List.map_map]
    exact List.map_congr_left hwords
  cells := List.forall_mem_map.mpr hcells
  held := by
    intro text htext
    obtain ⟨line, hline, hheld⟩ := h.held text htext
    exact ⟨f line, List.mem_map_of_mem hline, hholds line hline text hheld⟩

theorem isBlank_of_mem_spaces {n : Nat} : ∀ c ∈ List.replicate n ' ', isBlank c = true := by
  intro c hc
  rw [List.eq_of_mem_replicate hc]
  rfl

theorem exists_last_append_spaces {s : List Char} (hs : ∃ c ∈ s.getLast?, isBlank c = true)
    (n : Nat) : ∃ c ∈ (s ++ List.replicate n ' ').getLast?, isBlank c = true := by
  cases n with
  | zero => rwa [List.replicate_zero, List.append_nil]
  | succ n =>
      rw [List.replicate_succ', ← List.append_assoc, List.getLast?_concat]
      exact ⟨' ', rfl, rfl⟩

section Filled

variable {drawing : Drawing} {setting : Line.Setting}
  (h : IsBlock width rows held (drawing.lines setting)) (hsetting : setting.width = width)
  (style : Style)
include h hsetting

theorem fill_under {line : Line} (hline : line ∈ drawing.lines setting) :
    (line.under style).fill setting.width style =
      line.under style ++ Line.spaces (width - line.runCells) style := by
  have hcells := h.cells line hline
  rw [hsetting, Line.fill_of_le (by rwa [Line.runCells_under]), Line.runCells_under]

theorem isBlock_filled : IsBlock width rows held (drawing.filled style setting) := by
  refine h.map (fun line hline => ?_) (fun line hline => ?_) fun line hline text hholds => ?_
  · rw [fill_under h hsetting style hline, Line.chars_append, Line.chars_under, Line.chars_spaces,
      Text.words_append_blanks _ isBlank_of_mem_spaces]
  · have hcells := h.cells line hline
    rw [fill_under h hsetting style hline, Line.runCells_append, Line.runCells_under,
      Line.runCells_spaces]
    omega
  · rw [fill_under h hsetting style hline]
    exact (hholds.under style).append_left _

theorem areOpen_filled (hopen : AreOpen (drawing.lines setting)) :
    AreOpen (drawing.filled style setting) := by
  refine List.forall_mem_map.mpr fun line hline => ?_
  rw [fill_under h hsetting style hline, Line.chars_append, Line.chars_under, Line.chars_spaces]
  exact exists_last_append_spaces (hopen line hline) _

theorem areIndented_filled (hindented : AreIndented (drawing.lines setting)) :
    AreIndented (drawing.filled style setting) := by
  refine List.forall_mem_map.mpr fun line hline => ?_
  obtain ⟨c, hhead, hc⟩ := hindented line hline
  refine ⟨c, ?_, hc⟩
  rw [fill_under h hsetting style hline, Line.chars_append, Line.chars_under]
  exact List.mem_head?_append_of_mem_head? hhead

end Filled

/-! ## Padding -/

section Padded

variable {drawing : Drawing} {setting : Line.Setting} {left right : Nat}

theorem lines_padded (hwidth : setting.width ≠ 0) :
    (drawing.padded left right).lines setting =
      (drawing.filled .none { setting with width := setting.width - (left + right) }).map
        fun line => Line.spaces left .none ++ line ++ Line.spaces right .none :=
  if_neg hwidth

theorem isBlock_padded (hsetting : setting.width = width) (hwidth : width ≠ 0)
    (hroom : left + right ≤ width)
    (h : IsBlock (width - (left + right)) rows held
      (drawing.lines { setting with width := width - (left + right) })) :
    IsBlock width rows held ((drawing.padded left right).lines setting) := by
  subst hsetting
  rw [lines_padded hwidth]
  have hfilled := isBlock_filled h rfl .none
  refine hfilled.map (fun line hline => ?_) (fun line hline => ?_)
    fun line hline text hholds => (hholds.append_right _).append_left _
  · rw [Line.chars_append, Line.chars_append, Line.chars_spaces, Line.chars_spaces,
      Text.words_append_blanks _ isBlank_of_mem_spaces,
      Text.words_blanks_append isBlank_of_mem_spaces]
  · have hcells := hfilled.cells line hline
    rw [Line.runCells_append, Line.runCells_append, Line.runCells_spaces, Line.runCells_spaces]
    omega

theorem areOpen_padded (hwidth : setting.width ≠ 0) (hright : right ≠ 0) :
    AreOpen ((drawing.padded left right).lines setting) := by
  rw [lines_padded hwidth]
  refine List.forall_mem_map.mpr fun line _ => ?_
  obtain ⟨n, rfl⟩ := Nat.exists_eq_succ_of_ne_zero hright
  rw [Line.chars_append, Line.chars_spaces, List.replicate_succ', ← List.append_assoc,
    List.getLast?_concat]
  exact ⟨' ', rfl, rfl⟩

theorem areIndented_padded (hwidth : setting.width ≠ 0) (hleft : left ≠ 0) :
    AreIndented ((drawing.padded left right).lines setting) := by
  rw [lines_padded hwidth]
  refine List.forall_mem_map.mpr fun line _ => ?_
  obtain ⟨n, rfl⟩ := Nat.exists_eq_succ_of_ne_zero hleft
  rw [Line.chars_append, Line.chars_append, Line.chars_spaces, List.replicate_succ]
  exact ⟨' ', rfl, rfl⟩

end Padded

/-! ## Rows of a grid -/

namespace Grid

theorem isBlock_blank (width : Nat) (style : Style) (n : Nat) :
    IsBlock width (List.replicate n []) [] (List.replicate n (Line.spaces width style)) where
  words := by
    have hnone : Text.words (Line.spaces width style).chars = [] := by
      rw [Line.chars_spaces]
      exact Text.words_append_blanks [] isBlank_of_mem_spaces
    rw [List.map_replicate, hnone]
  cells := by
    intro line hline
    rw [List.eq_of_mem_replicate hline, Line.runCells_spaces]
  held := fun _ hmem => absurd hmem List.not_mem_nil

theorem isBlock_shape (h : IsBlock width rows held lines) (height : Nat) (style : Style) :
    IsBlock width (rows ++ List.replicate (height - rows.length) []) held
      (shape width height style lines) := by
  have hlength : lines.length = rows.length := by rw [← h.words, List.length_map]
  have hblock := h.append (isBlock_blank width style (height - rows.length))
  rw [List.append_nil] at hblock
  rwa [Grid.shape, hlength]

theorem areOpen_shape (hopen : AreOpen lines) (hwidth : width ≠ 0) (height : Nat) (style : Style) :
    AreOpen (shape width height style lines) := by
  refine List.forall_mem_append.mpr ⟨hopen, fun line hline => ?_⟩
  obtain ⟨n, rfl⟩ := Nat.exists_eq_succ_of_ne_zero hwidth
  rw [List.eq_of_mem_replicate hline, Line.chars_spaces, List.replicate_succ',
    List.getLast?_concat]
  exact ⟨' ', rfl, rfl⟩

theorem length_shape (height : Nat) (style : Style) (lines : List Line) :
    (shape width height style lines).length = max height lines.length := by
  rw [shape, List.length_append, List.length_replicate]
  omega

theorem beside_replicate_nil (lines : List Line) :
    beside lines (List.replicate lines.length []) = lines := by
  induction lines with
  | nil => rfl
  | cons line rest ih =>
      rw [List.length_cons, List.replicate_succ, beside, List.zipWith_cons_cons, List.append_nil]
      exact congrArg (line :: ·) ih

/-- Blocks of one height stand side by side, with a blank between the words of a row. -/
theorem isBlock_beside {otherWidth : Nat} (h : IsBlock width rows held lines)
    (hother : IsBlock otherWidth otherRows otherHeld others) (hopen : AreOpen lines)
    (hlength : lines.length = others.length) :
    IsBlock (width + otherWidth) (List.zipWith (· ++ ·) rows otherRows) (held ++ otherHeld)
      (beside lines others) where
  words := by
    rw [← h.words, ← hother.words, Grid.beside, List.map_zipWith, List.zipWith_map]
    refine List.ext_getElem (by simp) fun i _ _ => ?_
    rw [List.getElem_zipWith, List.getElem_zipWith, Line.chars_append]
    exact Text.words_append_of_last (hopen _ (List.getElem_mem _)) _
  cells := by
    intro line hline
    obtain ⟨i, hi, rfl⟩ := List.mem_iff_getElem.mp hline
    have hleft := h.cells _ (List.getElem_mem (List.lt_length_left_of_zipWith hi))
    have hright := hother.cells _ (List.getElem_mem (List.lt_length_right_of_zipWith hi))
    simp only [Grid.beside, List.getElem_zipWith, Line.runCells_append]
    omega
  held := by
    have hmem (i : Nat) (hi : i < lines.length) (hi' : i < others.length) :
        lines[i] ++ others[i] ∈ Grid.beside lines others :=
      List.mem_iff_getElem.mpr ⟨i, by simp [Grid.beside]; omega, by simp [Grid.beside]⟩
    refine List.forall_mem_append.mpr ⟨fun text htext => ?_, fun text htext => ?_⟩
    · obtain ⟨line, hline, hholds⟩ := h.held text htext
      obtain ⟨i, hi, rfl⟩ := List.mem_iff_getElem.mp hline
      exact ⟨_, hmem i hi (hlength ▸ hi), hholds.append_left _⟩
    · obtain ⟨line, hline, hholds⟩ := hother.held text htext
      obtain ⟨i, hi, rfl⟩ := List.mem_iff_getElem.mp hline
      exact ⟨_, hmem i (hlength ▸ hi) hi, hholds.append_right _⟩

/-- The rows of two blocks that stand side by side; the lower one ends in empty rows. -/
def sideBySide (rows others : List (List (List Char))) : List (List (List Char)) :=
  let height := max (max 1 rows.length) others.length
  List.zipWith (· ++ ·) (rows ++ List.replicate (height - rows.length) [])
    (others ++ List.replicate (height - others.length) [])

theorem sideBySide_ne_nil (rows others : List (List (List Char))) :
    sideBySide rows others ≠ [] := by
  rw [← List.length_pos_iff, sideBySide]
  simp only [List.length_zipWith, List.length_append, List.length_replicate]
  omega

/-- A row of two blocks side by side has a row of each, or nothing where one has ended. -/
theorem exists_append_of_mem_sideBySide {rows others : List (List (List Char))}
    {row : List (List Char)} (hrow : row ∈ sideBySide rows others) :
    ∃ left right, (left ∈ rows ∨ left = []) ∧ (right ∈ others ∨ right = []) ∧
      row = left ++ right := by
  rw [sideBySide] at hrow
  obtain ⟨i, hi, rfl⟩ := List.mem_iff_getElem.mp hrow
  have hblock {block : List (List (List Char))} {n : Nat} {part : List (List Char)}
      (hpart : part ∈ block ++ List.replicate n []) : part ∈ block ∨ part = [] :=
    (List.mem_append.mp hpart).imp_right List.eq_of_mem_replicate
  rw [List.getElem_zipWith]
  exact ⟨_, _, hblock (List.getElem_mem _), hblock (List.getElem_mem _), rfl⟩

theorem exists_append_mem_sideBySide (rows : List (List (List Char)))
    {others : List (List (List Char))} {right : List (List Char)} (hright : right ∈ others) :
    ∃ left, left ++ right ∈ sideBySide rows others := by
  obtain ⟨i, hi, rfl⟩ := List.mem_iff_getElem.mp hright
  rw [sideBySide]
  generalize hheight : max (max 1 rows.length) others.length = height
  have hleft : i < (rows ++ List.replicate (height - rows.length) []).length := by
    rw [List.length_append, List.length_replicate]
    omega
  have hplace : i < (others ++ List.replicate (height - others.length) []).length := by
    rw [List.length_append]
    omega
  refine ⟨(rows ++ List.replicate (height - rows.length) [])[i],
    List.mem_iff_getElem.mpr ⟨i, by rw [List.length_zipWith]; omega, ?_⟩⟩
  rw [List.getElem_zipWith, List.getElem_append_left hi]

/-- How the drawings of a row are set. -/
abbrev cellSetting (width : Nat) : Line.Setting :=
  ⟨width, .left, .ellipsis⟩

section Row

variable {grid : Grid} {drawing other : Drawing}

theorem isBlock_drawRow_single {column : Column} (hcolumns : grid.columns = [column])
    (h : IsBlock width rows held ((grid.cell 0 drawing).lines (cellSetting width)))
    (hrows : rows ≠ []) : IsBlock width rows held (grid.drawRow [width] [drawing]) := by
  have hcell := isBlock_filled h rfl column.style
  have hlength : ((grid.cell 0 drawing).filled column.style (cellSetting width)).length =
      rows.length := by rw [← hcell.words, List.length_map]
  have hheight : max 1 rows.length = rows.length :=
    Nat.max_eq_right (List.length_pos_iff.mpr hrows)
  have hrow : grid.drawRow [width] [drawing] =
      beside (shape width rows.length column.style
        ((grid.cell 0 drawing).filled column.style (cellSetting width)))
        (List.replicate rows.length []) := by
    rw [drawRow, hcolumns, ← hheight, ← hlength]
    rfl
  rw [hrow, shape, hlength, Nat.sub_self, List.replicate_zero, List.append_nil, ← hlength,
    beside_replicate_nil]
  exact hcell

theorem isBlock_drawRow_pair (grid : Grid) {column otherColumn : Column} {otherWidth : Nat}
    (hcolumns : grid.columns = [column, otherColumn])
    (h : IsBlock width rows held ((grid.cell 0 drawing).lines (cellSetting width)))
    (hopen : AreOpen ((grid.cell 0 drawing).lines (cellSetting width))) (hwidth : width ≠ 0)
    (hother : IsBlock otherWidth otherRows otherHeld
      ((grid.cell 1 other).lines (cellSetting otherWidth))) :
    IsBlock (width + otherWidth) (sideBySide rows otherRows) (held ++ otherHeld)
      (grid.drawRow [width, otherWidth] [drawing, other]) := by
  have hcell := isBlock_filled h rfl column.style
  have hnext := isBlock_filled hother rfl otherColumn.style
  have hlength : ((grid.cell 0 drawing).filled column.style (cellSetting width)).length =
      rows.length := by rw [← hcell.words, List.length_map]
  have hotherLength :
      ((grid.cell 1 other).filled otherColumn.style (cellSetting otherWidth)).length =
        otherRows.length := by rw [← hnext.words, List.length_map]
  -- both blocks get the height of the row
  obtain ⟨height, hheight⟩ : ∃ height, height = max (max 1 rows.length) otherRows.length :=
    ⟨_, rfl⟩
  have hleft := isBlock_shape hcell height column.style
  have hright := isBlock_shape hnext height otherColumn.style
  have hfirst : (shape width height column.style
      ((grid.cell 0 drawing).filled column.style (cellSetting width))).length = height := by
    rw [length_shape, hlength]
    omega
  have hsecond : (shape otherWidth height otherColumn.style
      ((grid.cell 1 other).filled otherColumn.style (cellSetting otherWidth))).length = height := by
    rw [length_shape, hotherLength]
    omega
  have hrow : grid.drawRow [width, otherWidth] [drawing, other] =
      beside (shape width height column.style
          ((grid.cell 0 drawing).filled column.style (cellSetting width)))
        (beside (shape otherWidth height otherColumn.style
            ((grid.cell 1 other).filled otherColumn.style (cellSetting otherWidth)))
          (List.replicate height [])) := by
    rw [drawRow, hcolumns, hheight, ← hlength, ← hotherLength]
    rfl
  have hlast := beside_replicate_nil (shape otherWidth height otherColumn.style
    ((grid.cell 1 other).filled otherColumn.style (cellSetting otherWidth)))
  rw [hsecond] at hlast
  have hfilled := areOpen_filled h rfl column.style hopen
  have hblock := isBlock_beside hleft hright (areOpen_shape hfilled hwidth height column.style)
    (hfirst.trans hsecond.symm)
  rw [hrow, hlast, sideBySide, ← hheight]
  exact hblock

end Row

end Grid

/-! ## Texts, rules and panels -/

theorem isBlock_ofStyled {text : Styled} (hwidth : width ≠ 0)
    (hfits : ∀ line ∈ text, line.FitsIn width)
    (hheld : ∀ part ∈ held, ∃ line ∈ text, line.Holds part) :
    IsBlock width (text.map fun line => Text.words line.chars) held
      ((Drawing.ofStyled text).lines (Grid.cellSetting width)) := by
  have hlines : (Drawing.ofStyled text).lines (Grid.cellSetting width) =
      text.map fun line => (line.padTo width).mergePlain := by
    rw [Drawing.lines, if_neg hwidth, Drawing.ofStyled]
    dsimp only
    rw [Styled.draw, if_neg hwidth, List.map_eq_flatMap]
    exact List.flatMap_congr fun line hline => Line.wrap_of_fits (hfits line hline) .ellipsis
  have hblock : IsBlock width (text.map fun line => Text.words line.chars) held text :=
    ⟨rfl, fun line hline =>
      (Line.runCells_le_cells (hfits line hline).closed).trans (hfits line hline).cells, hheld⟩
  rw [hlines]
  refine hblock.map (fun line hline => ?_) (fun line hline => ?_) fun line hline part hholds => ?_
  · rw [Line.chars_mergePlain_padTo, Text.words_append_blanks _ isBlank_of_mem_spaces]
  · exact Line.runCells_mergePlain_padTo (hfits line hline)
  · exact (hholds.append_left _).mergePlain

/-- A horizontal bar. -/
def bar (width : Nat) : List Char :=
  List.replicate width '─'

theorem isOneCell_bar (width : Nat) : IsOneCell (bar width) := by
  have hdash : IsOneCell ['─'] := by decide +kernel
  intro c hc
  rw [List.eq_of_mem_replicate hc]
  exact hdash '─' (List.mem_singleton_self '─')

/-- A word of the whole width is one row. -/
theorem isBlock_ofChars {s : List Char} (h : IsOneCell s) (hlength : s.length = width)
    (hwidth : width ≠ 0) (style : Style) : IsBlock width [[s]] [] [Line.ofChars s style] := by
  have hne : s ≠ [] := by
    rw [← List.length_pos_iff]
    omega
  refine ⟨?_, List.forall_mem_singleton.mpr ?_, fun _ hmem => absurd hmem List.not_mem_nil⟩
  · rw [List.map_singleton, Line.chars_ofChars, Text.words_of_isSolid h.isSolid hne]
  · rw [Line.runCells_ofChars, h.cellLen, hlength]

theorem isBlock_rule (hwidth : width ≠ 0) (style : Style) :
    IsBlock width [[bar width]] [] ((Drawing.rule style).lines (Grid.cellSetting width)) := by
  have hlines : (Drawing.rule style).lines (Grid.cellSetting width) =
      [Line.ofChars (bar width) style] := if_neg hwidth
  rw [hlines]
  exact isBlock_ofChars (isOneCell_bar width) List.length_replicate hwidth style

/-- The words of a row between borders. -/
def bordered (row : List (List Char)) : List (List Char) :=
  ['│'] :: (row ++ [['│']])

theorem isBlock_border {left right : Char} (hleft : IsOneCell [left]) (hright : IsOneCell [right])
    (hwidth : 2 ≤ width) (style : Style) :
    IsBlock width [[left :: bar (width - 2) ++ [right]]] []
      [Line.ofChars (left :: bar (width - 2) ++ [right]) style] := by
  have hcells : IsOneCell ([left] ++ bar (width - 2) ++ [right]) :=
    List.forall_mem_append.mpr ⟨List.forall_mem_append.mpr ⟨hleft, isOneCell_bar _⟩, hright⟩
  refine isBlock_ofChars hcells ?_ (by omega) style
  simp only [bar, List.length_append, List.length_cons, List.length_replicate, List.length_nil]
  omega

/-- Blanks part the borders from what they enclose. -/
theorem words_bordered {line : Line} (style : Style)
    (hfirst : ∃ c ∈ line.chars.head?, isBlank c = true)
    (hlast : ∃ c ∈ line.chars.getLast?, isBlank c = true) :
    Text.words (Line.chars ([⟨['│'], style⟩] ++ line ++ [⟨['│'], style⟩])) =
      bordered (Text.words line.chars) := by
  have hborder : Text.words ['│'] = [['│']] := rfl
  have hline : Line.chars [⟨['│'], style⟩] = ['│'] := rfl
  have hleft : ∃ c ∈ (line.chars ++ ['│']).head?, isBlank c = true := by
    obtain ⟨c, hhead, hc⟩ := hfirst
    exact ⟨c, List.mem_head?_append_of_mem_head? hhead, hc⟩
  rw [Line.chars_append, Line.chars_append, hline, List.append_assoc,
    Text.words_append_of_head _ hleft, Text.words_append_of_last hlast, hborder]
  rfl

theorem isBlock_panel {content : Drawing} {setting : Line.Setting}
    (hsetting : setting.width = width) (hwidth : 4 ≤ width) (style : Style)
    (h : IsBlock (width - 2 - (1 + 1)) rows held
      (content.lines { setting with width := width - 2 - (1 + 1) })) :
    IsBlock width
      (['╭' :: bar (width - 2) ++ ['╮']] ::
        (rows.map bordered ++ [['╰' :: bar (width - 2) ++ ['╯']]]))
      held ((panel style content).lines setting) := by
  subst hsetting
  have hinner : setting.width - 2 ≠ 0 := by omega
  have hpadded : IsBlock (setting.width - 2) rows held
      ((content.padded 1 1).lines { setting with width := setting.width - 2 }) :=
    isBlock_padded rfl hinner (show 1 + 1 ≤ setting.width - 2 by omega) h
  have hfilled := isBlock_filled hpadded rfl .none
  have hopen := areOpen_filled hpadded rfl .none (areOpen_padded hinner Nat.one_ne_zero)
  have hindented := areIndented_filled hpadded rfl .none
    (areIndented_padded hinner Nat.one_ne_zero)
  have hsides : IsBlock setting.width (rows.map bordered) held
      (((content.padded 1 1).filled .none { setting with width := setting.width - 2 }).map
        fun line => [⟨['│'], style⟩] ++ line ++ [⟨['│'], style⟩]) := by
    have hside : Line.runCells [⟨['│'], style⟩] = 1 := by
      have hcells : IsOneCell ['│'] := by decide +kernel
      have hrun : Line.ofChars ['│'] style = [⟨['│'], style⟩] := rfl
      rw [← hrun, Line.runCells_ofChars, hcells.cellLen]
      rfl
    refine ⟨?_, List.forall_mem_map.mpr fun line hline => ?_, fun text htext => ?_⟩
    · rw [← hfilled.words, List.map_map, List.map_map]
      refine List.map_congr_left fun line hline => ?_
      exact words_bordered style (hindented line hline) (hopen line hline)
    · have hcells := hfilled.cells line hline
      rw [Line.runCells_append, Line.runCells_append, hside]
      omega
    · obtain ⟨line, hline, hholds⟩ := hfilled.held text htext
      exact ⟨_, List.mem_map_of_mem hline, (hholds.append_right _).append_left _⟩
  have htop : IsBlock setting.width [['╭' :: bar (setting.width - 2) ++ ['╮']]] [] _ :=
    isBlock_border (by decide +kernel) (by decide +kernel) (by omega) style
  have hbottom : IsBlock setting.width [['╰' :: bar (setting.width - 2) ++ ['╯']]] [] _ :=
    isBlock_border (by decide +kernel) (by decide +kernel) (by omega) style
  have hblock := htop.append (hsides.append hbottom)
  have hlines : (panel style content).lines setting =
      [Line.ofChars ('╭' :: bar (setting.width - 2) ++ ['╮']) style] ++
        (((content.padded 1 1).filled .none { setting with width := setting.width - 2 }).map
            (fun line => [⟨['│'], style⟩] ++ line ++ [⟨['│'], style⟩]) ++
          [Line.ofChars ('╰' :: bar (setting.width - 2) ++ ['╯']) style]) := by
    rw [← List.append_assoc]
    exact if_neg (show setting.width ≠ 0 by omega)
  rw [List.append_nil, ← hlines] at hblock
  exact hblock

/-! ## Printing -/

namespace Console

/-- What is printed of a block has the words of its rows, and the texts that it holds. -/
theorem words_printLines (h : IsBlock width rows held lines) :
    Text.words ((⟨width, false⟩ : Console).printLines lines).toList = rows.flatten := by
  rw [← h.words, printLines, String.toList_ofList]
  have hcells := h.cells
  clear h
  induction lines with
  | nil => rfl
  | cons line rest ih =>
      obtain ⟨hline, hrest⟩ := List.forall_mem_cons.mp hcells
      rw [List.flatMap_cons, Line.limit_of_le hline, Line.write_false, List.append_assoc,
        List.singleton_append, Text.words_append_blank _ rfl, ih hrest]
      rfl

theorem infix_printLines (h : IsBlock width rows held lines) (colored : Bool)
    {text : List Char} (htext : text ∈ held) :
    text <:+: ((⟨width, colored⟩ : Console).printLines lines).toList := by
  obtain ⟨line, hline, hholds⟩ := h.held text htext
  rw [printLines, String.toList_ofList, List.flatMap_def]
  refine List.IsInfix.trans ?_ (List.infix_of_mem_flatten (List.mem_map_of_mem hline))
  rw [Line.limit_of_le (h.cells line hline)]
  exact (hholds.infix_write colored).trans (List.prefix_append _ _).isInfix

end Console

end Parley.Terminal
