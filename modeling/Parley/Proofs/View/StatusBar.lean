import Parley.Proofs.Terminal.Lines
import Parley.Proofs.Text.Cropping
import Parley.View.StatusBar

/-!
# The status bar fills its line

Whatever the segments hold, the bar takes exactly the cells of its width, and its stretches
cover it from the first character to the last, each with a background.  A bar that is cropped
keeps the stretches of the whole one up to its last character.
-/

namespace Parley.View

open Terminal

/-! ## Stretches -/

/-- Stretches that follow one another from one place to another, without gaps, overlaps or
empty ones. -/
inductive Covers : Nat → Nat → List Stretch → Prop
  | nil (place : Nat) : Covers place place []
  | cons (stretch : Stretch) {rest : List Stretch} {stop : Nat} :
      stretch.start < stretch.stop → Covers stretch.stop stop rest →
        Covers stretch.start stop (stretch :: rest)

/-- What a text of so many characters leaves of a stretch. -/
def Stretch.cut (length : Nat) (stretch : Stretch) : Option Stretch :=
  if stretch.start < length then some { stretch with stop := min stretch.stop length } else none

variable {start stop length : Nat} {line : Line}

theorem Covers.le {spans : List Stretch} (h : Covers start stop spans) : start ≤ stop := by
  induction h with
  | nil => exact Nat.le_refl _
  | cons _ hlt _ ih => exact Nat.le_trans (Nat.le_of_lt hlt) ih

/-- Nothing is left of stretches that a shorter text does not reach. -/
theorem Covers.filterMap_cut_eq_nil {spans : List Stretch} (h : Covers start stop spans)
    (hstart : length ≤ start) : spans.filterMap (Stretch.cut length) = [] := by
  induction h with
  | nil => rfl
  | cons _ hlt _ ih =>
      rw [List.filterMap_cons, Stretch.cut, if_neg (Nat.not_lt.mpr hstart),
        ih (Nat.le_trans hstart (Nat.le_of_lt hlt))]

theorem Covers.cut {spans : List Stretch} (h : Covers start stop spans) (hstart : start ≤ length)
    (hstop : length ≤ stop) : Covers start length (spans.filterMap (Stretch.cut length)) := by
  induction h with
  | nil place =>
      rw [Nat.le_antisymm hstop hstart]
      exact Covers.nil place
  | @cons stretch rest stop hlt hrest ih =>
      obtain hreached | hpast := Nat.lt_or_eq_of_le hstart
      · rw [List.filterMap_cons, Stretch.cut, if_pos hreached]
        obtain hwhole | hcut := Nat.le_total stretch.stop length
        · rw [Nat.min_eq_left hwhole]
          exact Covers.cons stretch hlt (ih hwhole hstop)
        · rw [Nat.min_eq_right hcut, hrest.filterMap_cut_eq_nil hcut]
          exact Covers.cons { stretch with stop := length } hreached (Covers.nil length)
      · rw [(Covers.cons stretch hlt hrest).filterMap_cut_eq_nil (Nat.le_of_eq hpast.symm), hpast]
        exact Covers.nil length

theorem Covers.filterMap_cut_eq_self {spans : List Stretch} (h : Covers start stop spans) :
    spans.filterMap (Stretch.cut stop) = spans := by
  induction h with
  | nil => rfl
  | cons _ hlt hrest ih =>
      rw [List.filterMap_cons, Stretch.cut, if_pos (Nat.lt_of_lt_of_le hlt hrest.le),
        Nat.min_eq_left hrest.le, ih]

/-- A line without empty runs is covered by its stretches. -/
theorem covers_stretches (hline : ∀ run ∈ line, run.text ≠ []) (start : Nat) :
    Covers start (start + line.chars.length) (stretches start line) := by
  induction line generalizing start with
  | nil => exact Covers.nil start
  | cons run rest ih =>
      obtain ⟨hrun, hrest⟩ := List.forall_mem_cons.mp hline
      rw [stretches, Line.chars_cons, List.length_append, ← Nat.add_assoc]
      exact Covers.cons ⟨start, start + run.text.length, run.style⟩
        (Nat.lt_add_of_pos_right (List.length_pos_iff.mpr hrun)) (ih hrest _)

theorem stretches_append (start : Nat) (first second : Line) :
    stretches start (first ++ second) =
      stretches start first ++ stretches (start + first.chars.length) second := by
  induction first generalizing start with
  | nil => rfl
  | cons run rest ih =>
      rw [List.cons_append, stretches, stretches, ih, Line.chars_cons, List.length_append,
        List.cons_append, Nat.add_assoc]

theorem repaint_nil (line : Line) : line.repaint [] = [] := by
  cases line with
  | nil => rfl
  | cons run rest => rfl

theorem stretches_ofChars (start : Nat) {text : List Char} (htext : text ≠ []) (style : Style) :
    stretches start (Line.ofChars text style) = [⟨start, start + text.length, style⟩] := by
  rw [Line.ofChars, if_neg (mt List.isEmpty_iff.mp htext)]
  rfl

/-- Fewer characters in the styles of a line take its stretches up to their number. -/
theorem stretches_repaint (hline : ∀ run ∈ line, run.text ≠ []) {text : List Char}
    (htext : text.length ≤ line.chars.length) (start : Nat) :
    stretches start (line.repaint text) =
      (stretches start line).filterMap (Stretch.cut (start + text.length)) := by
  induction line generalizing text start with
  | nil =>
      rw [List.length_eq_zero_iff.mp (Nat.le_zero.mp htext)]
      rfl
  | cons run rest ih =>
      have hcovers := covers_stretches hline start
      obtain ⟨hrun, hrest⟩ := List.forall_mem_cons.mp hline
      rw [Line.chars_cons, List.length_append] at htext
      have hsize := List.length_pos_iff.mpr hrun
      rw [Line.repaint]
      split
      case isTrue hempty =>
          rw [List.isEmpty_iff.mp hempty]
          exact (hcovers.filterMap_cut_eq_nil (Nat.le_refl start)).symm
      case isFalse hne =>
          have hlength := List.length_pos_iff.mpr (mt List.isEmpty_iff.mpr hne)
          have htake : text.take run.text.length ≠ [] := by
            rw [← List.length_pos_iff, List.length_take]
            omega
          rw [stretches_append, stretches_ofChars start htake, Line.chars_ofChars,
            List.length_take, stretches, List.filterMap_cons, Stretch.cut,
            if_pos (Nat.lt_add_of_pos_right hlength)]
          obtain hshort | hlong := Nat.le_total text.length run.text.length
          · -- the text ends in this run
            have hend := Nat.add_le_add_left hshort start
            rw [Nat.min_eq_right hshort, Nat.min_eq_right hend, List.drop_eq_nil_of_le hshort,
              (covers_stretches hrest _).filterMap_cut_eq_nil hend, repaint_nil]
            rfl
          · rw [Nat.min_eq_left hlong, Nat.min_eq_left (Nat.add_le_add_left hlong start),
              ih hrest (by rw [List.length_drop]; omega), List.length_drop,
              Nat.add_assoc start, Nat.add_sub_cancel' hlong]
            rfl

/-- A line that is cropped is as wide as it should be, and keeps the stretches that its text still
reaches. -/
theorem crop_fold (hline : ∀ run ∈ line, run.text ≠ [])
    (hhead : line.chars.head? ≠ some Text.joiner) (hend : line.chars.getLast? ≠ some Text.joiner)
    {width : Nat} (hwide : width ≤ line.cells) :
    (line.crop .fold width).cells = width ∧
      (line.crop .fold width).chars.length ≤ line.chars.length ∧
      stretches 0 (line.crop .fold width) =
        (stretches 0 line).filterMap (Stretch.cut (line.crop .fold width).chars.length) := by
  rw [Line.crop]
  split
  case isTrue hfits =>
      have hcovers := covers_stretches hline 0
      rw [Nat.zero_add] at hcovers
      exact ⟨Nat.le_antisymm hfits hwide, Nat.le_refl _, hcovers.filterMap_cut_eq_self.symm⟩
  case isFalse =>
      have hlength := Text.length_fitCells_le hhead hend hwide
      have hstretches := stretches_repaint hline hlength 0
      rw [Nat.zero_add] at hstretches
      rw [Line.cells, Line.chars_repaint]
      exact ⟨Text.cellLen_fitCells hhead hend width, hlength, hstretches⟩

/-! ## The runs of the bar -/

/-- Whether every run of a line has text and a background. -/
def IsPainted (line : Line) : Prop :=
  ∀ run ∈ line, run.text ≠ [] ∧ run.style.background ≠ none

namespace IsPainted

variable (h : IsPainted line)
include h

theorem covers (start : Nat) : Covers start (start + line.chars.length) (stretches start line) :=
  covers_stretches (fun run hrun => (h run hrun).1) start

theorem background : ∀ start, ∀ stretch ∈ stretches start line, stretch.style.background ≠ none := by
  induction line with
  | nil => exact fun _ _ hmem => absurd hmem List.not_mem_nil
  | cons run rest ih =>
      obtain ⟨hrun, hrest⟩ := List.forall_mem_cons.mp h
      exact fun start => List.forall_mem_cons.mpr ⟨hrun.2, ih hrest _⟩

end IsPainted

namespace StatusBar

theorem isPainted_runs (segments : List (String × Tone)) : IsPainted (runs segments) := by
  induction segments with
  | nil => exact fun _ hmem => absurd hmem List.not_mem_nil
  | cons segment rest ih =>
      rw [runs]
      refine List.forall_mem_cons.mpr ⟨⟨List.cons_ne_nil _ _, Option.some_ne_none _⟩, ?_⟩
      exact List.forall_mem_cons.mpr ⟨⟨List.cons_ne_nil _ _, Option.some_ne_none _⟩, ih⟩

/-- Each segment starts with a space and ends in an arrow. -/
theorem ends_chars_runs (segments : List (String × Tone)) (hne : segments ≠ []) :
    ((runs segments).chars).head? = some ' ' ∧ ((runs segments).chars).getLast? = some arrow := by
  induction segments with
  | nil => exact absurd rfl hne
  | cons segment rest ih =>
      refine ⟨rfl, ?_⟩
      rw [runs, Line.chars_cons, Line.chars_cons]
      by_cases hrest : rest = []
      · rw [hrest, runs, Line.chars_nil, List.append_nil, List.getLast?_concat]
      · rw [← List.append_assoc, List.getLast?_append, (ih hrest).2]
        rfl

variable (bar : StatusBar) (width : Int)

/-- The bar before it is cropped: its segments, and the ground behind them up to the width. -/
def whole : Line :=
  runs bar.segments ++ Line.spaces (width - (runs bar.segments).cells).toNat (.onColor barColor)

theorem isPainted_whole : IsPainted (bar.whole width) := by
  refine List.forall_mem_append.mpr ⟨isPainted_runs _, ?_⟩
  rw [Line.spaces, Line.ofChars]
  split
  case isTrue => exact fun _ hmem => absurd hmem List.not_mem_nil
  case isFalse hne =>
      refine List.forall_mem_singleton.mpr ⟨mt List.isEmpty_iff.mpr hne, ?_⟩
      exact Option.some_ne_none barColor

theorem cells_whole :
    (bar.whole width).cells = max (runs bar.segments).cells width.toNat := by
  obtain ⟨hhead, hend⟩ := ends_chars_runs bar.segments (List.cons_ne_nil _ _)
  have hopen : (Text.Gauge.start.after (runs bar.segments).chars).joined = false := by
    apply Text.joined_after_of_ends
    · rw [hhead]
      decide
    · rw [hend]
      decide
  have hcells := Text.cellLen_append_spaces hopen (width - (runs bar.segments).cells).toNat
  rw [whole, Line.cells, Line.chars_append, Line.chars_spaces, hcells]
  change (runs bar.segments).cells + _ = _
  omega

theorem line_eq_crop : bar.line width = (bar.whole width).crop .fold width.toNat := by
  rw [line]
  split
  case isTrue hroom =>
      have hcells := bar.cells_whole width
      rw [Line.crop, if_pos (by omega), whole]
  case isFalse hfull =>
      rw [whole, Int.toNat_of_nonpos (Int.not_lt.mp hfull)]
      exact congrArg (Line.crop .fold width.toNat) (List.append_nil _).symm

theorem ends_chars_whole : (bar.whole width).chars.head? ≠ some Text.joiner ∧
    (bar.whole width).chars.getLast? ≠ some Text.joiner := by
  obtain ⟨hhead, hend⟩ := ends_chars_runs bar.segments (List.cons_ne_nil _ _)
  rw [whole, Line.chars_append, Line.chars_spaces]
  refine ⟨?_, ?_⟩
  · rw [List.head?_append, hhead, Option.some_or]
    decide
  · rw [List.getLast?_append, hend, List.getLast?_replicate]
    split
    · decide
    · decide

/-- The bar takes the cells of its width and no other number, whatever it shows; and its
stretches cover all of its characters, each of which has a background: they are those of the
whole bar, up to the last character that is left. -/
theorem line_filled :
    ((bar.line width).cells : Int) = max width 0 ∧
      Covers 0 (bar.line width).chars.length (stretches 0 (bar.line width)) ∧
      (∀ stretch ∈ stretches 0 (bar.line width), stretch.style.background ≠ none) ∧
      stretches 0 (bar.line width) =
        (stretches 0 (bar.whole width)).filterMap
          (Stretch.cut (bar.line width).chars.length) := by
  have hpainted := bar.isPainted_whole width
  obtain ⟨hhead, hend⟩ := bar.ends_chars_whole width
  have hwide : width.toNat ≤ (bar.whole width).cells := by
    rw [cells_whole]
    exact Nat.le_max_right _ _
  obtain ⟨hcells, hlength, hstretches⟩ :=
    crop_fold (fun run hrun => (hpainted run hrun).1) hhead hend hwide
  rw [← line_eq_crop] at hcells hlength hstretches
  have hcovers := hpainted.covers 0
  rw [Nat.zero_add] at hcovers
  refine ⟨by rw [hcells, Int.toNat_eq_max], ?_, ?_, hstretches⟩
  · rw [hstretches]
    exact hcovers.cut (Nat.zero_le _) hlength
  · rw [hstretches]
    intro stretch hmem
    obtain ⟨uncut, huncut, hcut⟩ := List.mem_filterMap.mp hmem
    rw [Stretch.cut, Option.ite_none_right_eq_some] at hcut
    cases hcut.2
    exact hpainted.background 0 uncut huncut

/-- A space stands for the half of a character that is left. -/
example : ((StatusBar.mk "日本" "" "" 0 "" .ready).line 4).chars = [' ', '日', ' '] := by
  decide +kernel

end StatusBar
end Parley.View
