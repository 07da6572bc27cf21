import Parley.Proofs.Terminal.Printing
import Parley.Proofs.Text.Cropping

/-!
# Lines that fit

A line that fits the width it is set to becomes one row: it is not broken, nothing of it is cut
off, and spaces fill it up.  A text without blanks fits where it has the cells.  Within it a
joiner may swallow what follows, but it must not end in one.
-/

namespace Parley.Terminal.Line

open Text (isBlank dropTailWhile cellLen joiner)

/-! ## Cells of runs -/

@[simp] theorem runCells_append (first second : Line) :
    runCells (first ++ second) = runCells first + runCells second := by
  rw [runCells, List.map_append, sumOf_append]
  rfl

@[simp] theorem chars_under (style : Style) (line : Line) :
    (line.under style).chars = line.chars := by
  rw [chars, under, List.flatMap_map]
  rfl

@[simp] theorem runCells_under (style : Style) (line : Line) :
    (line.under style).runCells = line.runCells := by
  rw [runCells, under, List.map_map]
  rfl

theorem runCells_ofChars (text : List Char) (style : Style) :
    (ofChars text style).runCells = cellLen text := by
  cases text with
  | nil => rfl
  | cons c rest => exact Nat.add_zero _

@[simp] theorem runCells_spaces (n : Nat) (style : Style) : (spaces n style).runCells = n := by
  rw [spaces, runCells_ofChars, Text.cellLen_spaces]

/-- A line that is not too wide is filled up with spaces. -/
theorem fill_of_le {width : Nat} {line : Line} (h : line.runCells ≤ width) (style : Style) :
    line.fill width style = line ++ spaces (width - line.runCells) style := by
  rw [fill]
  split
  case isTrue => rfl
  case isFalse hfull =>
      rw [limit_of_le h, Nat.sub_eq_zero_of_le (Nat.not_lt.mp hfull)]
      exact (List.append_nil line).symm

theorem take_length_chars (line : Line) : line.take line.chars.length = line := by
  induction line with
  | nil => rfl
  | cons run rest ih =>
      rw [chars_cons, List.length_append, take, if_pos (Nat.le_add_right _ _),
        Nat.add_sub_cancel_left, ih]

/-! ## Breaking -/

variable {width : Nat}

/-- Blanks part the words, so no word swallows a part of the next. -/
theorem breaksAfter_of_fits {used : Nat} {words : List (List Char)} (hwords : IsSpaced words)
    (hfits : used + cellLen words.flatten ≤ width) (overflow : Overflow) (start : Nat) :
    breaksAfter overflow width start used words = [] := by
  induction words generalizing used start with
  | nil => rfl
  | cons word rest ih =>
      rw [List.flatten_cons] at hfits
      have hsum : cellLen word + cellLen rest.flatten ≤ cellLen (word ++ rest.flatten) := by
        cases rest with
        | nil => rw [List.flatten_nil, List.append_nil]; exact Nat.le_refl _
        | cons next others =>
            obtain ⟨c, hlast, hblank⟩ := hwords.blank word List.mem_cons_self
            refine Text.cellLen_add_le (fun hjoiner => ?_) _
            rw [Option.mem_unique hlast hjoiner] at hblank
            exact absurd hblank (by decide)
      have htrimmed : cellLen (dropTailWhile isBlank word) ≤ cellLen word :=
        fitsTrimmed_of_le (Nat.le_refl _)
      rw [breaksAfter.eq_def]
      dsimp only
      rw [if_pos (by omega), ih hwords.tail (by omega)]

theorem breaks_of_fits {text : List Char} (hfits : cellLen text ≤ width) (overflow : Overflow) :
    breaks overflow width text = [] := by
  rw [breaks]
  obtain hwhole | ⟨hnone, -⟩ := flatten_spacedWords text
  · apply breaksAfter_of_fits (isSpaced_spacedWords text)
    rwa [hwhole, Nat.zero_add]
  · rw [hnone]
    rfl

theorem IsClosed.append {first second : Line} (hfirst : first.IsClosed)
    (hsecond : second.IsClosed) : (first ++ second).IsClosed :=
  List.forall_mem_append.mpr ⟨hfirst, hsecond⟩

theorem isClosed_ofChars {text : List Char} (h : Text.IsClosed text) (style : Style) :
    (ofChars text style).IsClosed := by
  rw [ofChars]
  split
  · exact fun _ hmem => absurd hmem List.not_mem_nil
  · exact List.forall_mem_singleton.mpr h

theorem isClosed_spaces (n : Nat) (style : Style) : (spaces n style).IsClosed := by
  refine isClosed_ofChars (Text.isClosed_of_notMem fun hmem => ?_) style
  exact absurd (List.eq_of_mem_replicate hmem) (by decide)

theorem IsClosed.chars {line : Line} (h : line.IsClosed) : Text.IsClosed line.chars := by
  induction line with
  | nil => exact fun hlast => nomatch hlast
  | cons run rest ih =>
      obtain ⟨hrun, hrest⟩ := List.forall_mem_cons.mp h
      exact hrun.append (ih hrest)

/-- Joined runs end where the last of them ends. -/
theorem IsClosed.mergePlain {line : Line} (h : line.IsClosed) : line.mergePlain.IsClosed := by
  fun_induction Line.mergePlain line with
  | case1 => exact h
  | case2 run rest next others hmerged hplain ih =>
      obtain ⟨hrun, hrest⟩ := List.forall_mem_cons.mp h
      have hothers := ih hrest
      rw [hmerged] at hothers
      obtain ⟨hnext, hothers⟩ := List.forall_mem_cons.mp hothers
      exact List.forall_mem_cons.mpr ⟨hrun.append hnext, hothers⟩
  | case3 run rest next others hmerged hplain ih =>
      obtain ⟨hrun, hrest⟩ := List.forall_mem_cons.mp h
      exact List.forall_mem_cons.mpr ⟨hrun, hmerged ▸ ih hrest⟩
  | case4 run rest hmerged ih =>
      exact List.forall_mem_singleton.mpr (List.forall_mem_cons.mp h).1

/-- A line that fits a width as it is: it holds no tab to expand, none of its runs ends in a
joiner, and its last character is a letter. -/
structure FitsIn (width : Nat) (line : Line) : Prop where
  tab : '\t' ∉ line.chars
  closed : line.IsClosed
  last : ∀ c ∈ line.chars.getLast?, isBlank c = false
  cells : line.cells ≤ width

theorem chars_mergePlain_padTo (width : Nat) (line : Line) :
    (line.padTo width).mergePlain.chars =
      line.chars ++ List.replicate (width - line.cells) ' ' := by
  rw [chars_mergePlain, padTo, chars_append, chars_spaces]

section Fits

variable {line : Line} (h : line.FitsIn width)
include h

theorem trimEnd_of_fits : line.trimEnd width = line := by
  have hkept : dropTailWhile isBlank line.chars = line.chars :=
    Text.dropTailWhile_eq_self_iff.mpr h.last
  rw [trimEnd, hkept]
  dsimp only
  split
  case isTrue => rfl
  case isFalse =>
      rw [Nat.sub_self, Nat.zero_min, Nat.sub_zero, take_length_chars]

theorem cells_padTo_of_fits : (line.padTo width).cells = width := by
  have hopen : (Text.Gauge.start.after line.chars).joined = false :=
    Text.Gauge.joined_after h.closed.chars rfl
  have hcells : line.cells ≤ width := h.cells
  rw [padTo, cells, chars_append, chars_spaces, Text.cellLen_append_spaces hopen]
  exact Nat.add_sub_cancel' hcells

theorem wrap_of_fits (overflow : Overflow) :
    line.wrap ⟨width, .left, overflow⟩ = [(line.padTo width).mergePlain] := by
  have hcropped : line.crop overflow width = line := if_pos h.cells
  have hpadded : (line.padTo width).crop overflow width = line.padTo width :=
    if_pos (Nat.le_of_eq (cells_padTo_of_fits h))
  rw [wrap, expandTabs_of_notMem h.tab]
  dsimp only
  rw [breaks_of_fits h.cells, divide, divideAfter, List.map_singleton, trimEnd_of_fits h,
    justify, hcropped, hpadded]

theorem runCells_mergePlain_padTo : (line.padTo width).mergePlain.runCells ≤ width := by
  have hclosed : (line.padTo width).mergePlain.IsClosed :=
    (h.closed.append (isClosed_spaces _ .none)).mergePlain
  calc (line.padTo width).mergePlain.runCells
      ≤ (line.padTo width).mergePlain.cells := runCells_le_cells hclosed
    _ = (line.padTo width).cells := by rw [cells, chars_mergePlain, cells]
    _ = width := cells_padTo_of_fits h

end Fits

end Parley.Terminal.Line

namespace Parley.Terminal

open Text (isBlank joiner)

/-! ## Texts in one piece -/

/-- A line that is set in one piece: there is no blank in it to break at, and none of its runs
ends in a joiner. -/
structure Line.IsWhole (line : Line) : Prop where
  solid : Text.IsSolid line.chars
  closed : line.IsClosed

theorem Line.IsWhole.fitsIn {line : Line} {width : Nat} (h : line.IsWhole)
    (hcells : line.cells ≤ width) : line.FitsIn width where
  tab := fun hmem => absurd (h.solid '\t' hmem) (by decide)
  closed := h.closed
  last := fun c hc => h.solid c (List.mem_of_getLast? hc)
  cells := hcells

/-- A text of characters that take one cell each and are no blanks. -/
def IsOneCell (s : List Char) : Prop :=
  ∀ c ∈ s, Text.IsNarrow c ∧ isBlank c = false

/-- Decided over the text and not over all characters. -/
instance (s : List Char) : Decidable (IsOneCell s) :=
  List.decidableBAll (fun c => Text.charCells c = 1 ∧ isBlank c = false) s

section OneCell

variable {s : List Char} (h : IsOneCell s)
include h

theorem IsOneCell.isSolid : Text.IsSolid s :=
  fun c hc => (h c hc).2

theorem IsOneCell.notMem_joiner : joiner ∉ s :=
  fun hmem => (h joiner hmem).1.ne Text.charCells_joiner rfl

theorem IsOneCell.isWhole (style : Style) : (Line.ofChars s style).IsWhole where
  solid := by
    rw [Line.chars_ofChars]
    exact h.isSolid
  closed := Line.isClosed_ofChars (Text.isClosed_of_notMem h.notMem_joiner) style

theorem IsOneCell.cellLen : Text.cellLen s = s.length :=
  Text.cellLenAfter_of_narrow (fun c hc => (h c hc).1) none

/-- Controls take no cell, so none is dropped. -/
theorem IsOneCell.kept : Styled.kept s = s := by
  refine List.filter_eq_self.mpr fun c hc => ?_
  have hnarrow := (h c hc).1
  have hbell : c ≠ '\x07' := hnarrow.ne rfl
  have hbackspace : c ≠ '\x08' := hnarrow.ne rfl
  have htab : c ≠ '\x0b' := hnarrow.ne rfl
  have hfeed : c ≠ '\x0c' := hnarrow.ne rfl
  have hreturn : c ≠ '\r' := hnarrow.ne rfl
  simp [Styled.isDropped, hbell, hbackspace, htab, hfeed, hreturn]

theorem IsOneCell.ofChars (style : Style) : Styled.ofChars s style = [Line.ofChars s style] := by
  have hfeed : '\n' ∉ s := fun hmem => (h '\n' hmem).1.ne rfl rfl
  rw [Styled.ofChars, h.kept, Text.lines_of_notMem hfeed, List.map_singleton]

end OneCell

end Parley.Terminal
