import Parley.Proofs.Terminal.Blocks
import Parley.Proofs.Wire.Cutting

/-!
# Widths of columns

What a drawing can make use of is never more than the width it is measured at, and where there
is room it is what the drawing holds.  A column that shares a width with no other takes all of
it, two columns of one ratio take a half each, and columns without a ratio take what they hold.
-/

namespace Parley.Terminal

variable {width : Nat}

/-! ## What drawings can use -/

namespace Drawing

theorem most_ofStyled {line : Line} (h : Text.IsSolid line.chars) (width : Nat) :
    ((ofStyled [line]).measure width).most = line.cells := by
  have hchars : Styled.chars [line] = line.chars := List.intercalate_singleton
  have hlines : (Wire.splitLines line.chars).map String.toList = Wire.linesOf line.chars := by
    rw [Wire.splitLines_eq, List.map_map]
    exact List.map_id'' (fun _ => String.toList_ofList) _
  have hunbroken : ∀ c ∈ line.chars, Wire.isLineBreak c = false := by
    intro c hc
    by_contra hbreak
    rw [Bool.not_eq_false] at hbreak
    exact absurd ((Text.isBlank_of_isLineBreak hbreak).symm.trans (h c hc)) (by decide)
  show widest ((Wire.splitLines (Styled.chars [line])).map String.toList) = line.cells
  rw [hchars, hlines, Wire.linesOf_of_not_break hunbroken, Line.cells]
  split
  case isTrue hempty =>
      rw [List.isEmpty_iff.mp hempty]
      rfl
  case isFalse => exact Nat.zero_max _

variable {drawing : Drawing}

theorem most_extent (hwidth : width ≠ 0) :
    (drawing.extent width).most = min (drawing.measure width).most width := by
  rw [extent, if_neg hwidth]
  rfl

theorem most_extent_padded {left right span : Nat} (hpositive : left + right < width)
    (hspan : (drawing.measure (width - (left + right))).most = span)
    (hroom : span + (left + right) ≤ width) :
    ((drawing.padded left right).extent width).most = span + (left + right) := by
  have hinner : (drawing.extent (width - (left + right))).most = span := by
    rw [most_extent (by omega), hspan]
    omega
  have hmeasure : ((drawing.padded left right).measure width).most =
      min ((drawing.extent (width - (left + right))).most + (left + right)) width := by
    rw [padded]
    dsimp only
    rw [if_neg (by omega)]
    rfl
  rw [most_extent (by omega), hmeasure, hinner]
  omega

end Drawing

/-! ## What columns take -/

theorem le_foldl_max (spans : List Nat) (least : Nat) :
    least ≤ spans.foldl max least ∧ ∀ span ∈ spans, span ≤ spans.foldl max least := by
  induction spans generalizing least with
  | nil => exact ⟨Nat.le_refl _, fun _ hmem => absurd hmem List.not_mem_nil⟩
  | cons first rest ih =>
      obtain ⟨hleast, hrest⟩ := ih (max least first)
      rw [List.foldl_cons]
      exact ⟨by omega, List.forall_mem_cons.mpr ⟨by omega, hrest⟩⟩

namespace Grid

variable {grid : Grid}

theorem most_columnExtent_le (grid : Grid) (width index : Nat) :
    (grid.columnExtent width index).most ≤ width := by
  rw [columnExtent]
  split
  case isTrue => exact Nat.zero_le _
  case isFalse =>
      dsimp only
      split
      case isTrue => exact Nat.le_refl width
      case isFalse => exact Nat.min_le_right _ _

theorem most_columnExtent {index : Nat} {spans : List Nat} (hwidth : width ≠ 0)
    (hspans : (grid.columnCells index).map (fun cell => (cell.extent width).most) = spans)
    (hne : spans ≠ []) (hroom : spans.foldl max 0 ≤ width) :
    (grid.columnExtent width index).most = spans.foldl max 0 := by
  have hmost : ((grid.columnCells index).map (fun cell => cell.extent width)).map Extent.most =
      spans := by
    rw [List.map_map]
    exact hspans
  have hcells : ¬((grid.columnCells index).map (fun cell => cell.extent width)).isEmpty := by
    rw [List.isEmpty_iff, List.map_eq_nil_iff]
    rintro hnone
    rw [hnone] at hspans
    exact hne hspans.symm
  rw [columnExtent, if_neg hwidth]
  dsimp only
  rw [if_neg hcells, hmost]
  exact Nat.min_eq_left hroom

/-- A column of texts of one line each takes the cells of the widest one. -/
theorem most_columnExtent_texts (width : Nat) {index left right : Nat} {texts : List Line}
    (hcells : grid.columnCells index =
      texts.map fun line => (Drawing.ofStyled [line]).padded left right)
    (hsolid : ∀ line ∈ texts, Text.IsSolid line.chars) (hne : texts ≠ [])
    (hpositive : left + right < width)
    (hroom : (texts.map fun line => line.cells + (left + right)).foldl max 0 ≤ width) :
    (grid.columnExtent width index).most =
      (texts.map fun line => line.cells + (left + right)).foldl max 0 := by
  refine most_columnExtent (by omega) ?_ (List.map_eq_nil_iff.not.mpr hne) hroom
  rw [hcells, List.map_map]
  refine List.map_congr_left fun line hline => ?_
  obtain ⟨-, hmax⟩ := le_foldl_max (texts.map fun line => line.cells + (left + right)) 0
  have hfits := (hmax _ (List.mem_map_of_mem hline)).trans hroom
  exact Drawing.most_extent_padded hpositive (Drawing.most_ofStyled (hsolid line hline) _) hfits

/-- A column that is alone takes the whole width. -/
theorem widths_of_single {column : Column} (hcolumns : grid.columns = [column])
    (hratio : column.ratio = none) (hexpand : grid.expand = true) (hwidth : width ≠ 0) :
    grid.widths width = [width] := by
  have hwished : grid.wishedWidths width = [max 1 (grid.columnExtent width 0).most] := by
    rw [wishedWidths, hcolumns]
    simp [hratio]
  obtain ⟨wish, hwish⟩ : ∃ wish, wish = max 1 (grid.columnExtent width 0).most := ⟨_, rfl⟩
  have hmost := grid.most_columnExtent_le width 0
  have hbound : wish ≤ width := by omega
  have hpositive : 0 < wish := by omega
  have hshare : Drawing.ceilDiv (wish * (width - wish)) wish = width - wish := by
    rw [Drawing.ceilDiv, Nat.add_sub_assoc hpositive, Nat.mul_add_div hpositive,
      Nat.div_eq_of_lt (Nat.sub_one_lt (by omega)), Nat.add_zero]
  have hsum : sumOf [wish] = wish := Nat.add_zero wish
  rw [widths, hwished, ← hwish]
  dsimp only
  rw [hsum, if_pos hbound, if_pos hbound, hexpand, Bool.true_and]
  split
  case isTrue =>
      have hshares : Drawing.distribute (width - wish) wish [(wish, 0)] = [width - wish] := by
        simp only [Drawing.distribute, if_neg (Nat.ne_of_gt hpositive), hshare, Nat.zero_max]
      rw [hsum, List.map_singleton, hshares, List.zipWith_cons_cons, List.zipWith_nil_left]
      congr 1
      omega
  case isFalse hfull =>
      congr 1
      simp only [decide_eq_true_eq] at hfull
      omega

/-- Two columns of one ratio take a half each, if what the gaps ask for is not more. -/
theorem widths_of_halves {first second : Column} (hcolumns : grid.columns = [first, second])
    (hfirst : first.ratio = some 1) (hsecond : second.ratio = some 1)
    (hexpand : grid.expand = true) (hroom : 2 * (1 + 2 * grid.gap) ≤ width) :
    grid.widths width = [(width + 1) / 2, width / 2] := by
  have hwished : grid.wishedWidths width = [(width + 1) / 2, width / 2] := by
    rw [wishedWidths, hcolumns, hexpand]
    simp [hfirst, hsecond, sumOf, reckonedGap, Drawing.distribute, Drawing.ceilDiv,
      wishedWidths.place]
    omega
  have hsum : sumOf [(width + 1) / 2, width / 2] = width := by
    simp only [sumOf]
    omega
  rw [widths, hwished]
  dsimp only
  rw [hsum, if_pos (Nat.le_refl width), if_pos (Nat.le_refl width), if_neg (by simp)]

/-- A grid that does not expand has the widths that its columns wish for. -/
theorem widths_of_room {wished : List Nat} (hexpand : grid.expand = false)
    (hwished : grid.wishedWidths width = wished) (hroom : sumOf wished ≤ width) :
    grid.widths width = wished := by
  rw [widths, hwished]
  dsimp only
  rw [if_pos hroom, if_pos hroom, hexpand, Bool.false_and, if_neg Bool.false_ne_true]

end Grid

end Parley.Terminal
