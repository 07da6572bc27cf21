import Parley.Proofs.Terminal.Printing
import Parley.Proofs.Terminal.Reading
import Parley.Proofs.Text.Cropping

/-!
# Letters that are printed

Without colours no letter comes in where a text is printed, whatever the text and the width: it
is broken into lines, cut off where it is too wide, and filled up with spaces.
-/

namespace Parley.Text

theorem letters_cropClusters (width : Nat) (groups : List Cluster) :
    (letters (cropClusters width groups)).Sublist
      (letters (groups.flatMap Cluster.chars)) := by
  induction groups generalizing width with
  | nil => exact List.Sublist.refl _
  | cons group others ih =>
      rw [cropClusters, List.flatMap_cons, letters_append]
      split
      · exact List.nil_sublist _
      · split
        · rw [letters_append]
          exact (ih _).append_left _
        · exact List.nil_sublist _

theorem letters_fitCells (width : Nat) (s : List Char) :
    (letters (fitCells width s)).Sublist (letters s) := by
  rw [fitCells]
  split
  · rw [letters_append, letters_spaces, List.append_nil]
  · have hcropped := letters_cropClusters width (clusters s)
    rwa [flatMap_chars_clusters] at hcropped

end Parley.Text

namespace Parley.Terminal

open Text (letters)

namespace Line

/-! ## Tabs -/

/-- A tab becomes spaces. -/
theorem letters_expandRun (style : Style) (before : Nat) (part built text : List Char) :
    letters (expandRun style before part built text).1.chars =
      letters built.reverse ++ letters text := by
  induction text generalizing before part built with
  | nil =>
      rw [expandRun, chars_ofChars]
      exact (List.append_nil _).symm
  | cons c rest ih =>
      rw [expandRun]
      split
      case isTrue htab =>
          subst htab
          have hblank : Text.isBlank '\t' = true := by decide
          dsimp only
          rw [chars_cons, Text.letters_append, Text.letters_append, Text.letters_spaces,
            List.append_nil, ih, Text.letters_cons_of_blank hblank]
          rfl
      case isFalse =>
          rw [ih, List.reverse_cons, Text.letters_append, List.append_assoc,
            ← Text.letters_append, List.singleton_append]

theorem letters_expandTabs (line : Line) : letters line.expandTabs.chars = letters line.chars := by
  have hafter (before : Nat) (part : List Char) (line : Line) :
      letters (expandAfter before part line).chars = letters line.chars := by
    induction line generalizing before part with
    | nil => rfl
    | cons run rest ih =>
        rw [expandAfter]
        dsimp only
        rw [chars_append, Text.letters_append, letters_expandRun, ih, chars_cons,
          Text.letters_append]
        rfl
  rw [expandTabs]
  split
  · exact hafter 0 [] line
  · rfl

/-! ## Rows -/

theorem letters_crop (width : Nat) (line : Line) :
    (letters (line.crop .fold width).chars).Sublist (letters line.chars) := by
  rw [crop]
  split
  · exact List.Sublist.refl _
  · rw [chars_repaint]
    exact Text.letters_fitCells _ _

theorem letters_trimEnd (width : Nat) (line : Line) :
    (letters (line.trimEnd width).chars).Sublist (letters line.chars) := by
  rw [trimEnd]
  dsimp only
  split
  · exact List.Sublist.refl _
  · rw [chars_take]
    exact Text.letters_sublist (List.take_sublist _ _)

theorem letters_cropRuns (width : Nat) (line : Line) :
    (letters (line.cropRuns width).chars).Sublist (letters line.chars) := by
  induction line generalizing width with
  | nil => exact List.Sublist.refl _
  | cons run rest ih =>
      rw [cropRuns, chars_cons, Text.letters_append]
      split
      · rw [chars_cons, Text.letters_append]
        exact (ih _).append_left _
      · rw [chars_ofChars]
        exact (Text.letters_fitCells _ _).trans (List.sublist_append_left _ _)

theorem letters_limit (width : Nat) (line : Line) :
    (letters (line.limit width).chars).Sublist (letters line.chars) := by
  rw [limit]
  split
  · exact List.Sublist.refl _
  · exact letters_cropRuns width line

/-- The rows that a line is wrapped into have letters of the line only, in their order. -/
theorem letters_wrapped (width : Nat) (line : Line) :
    ((line.wrap ⟨width, .ragged, .fold⟩).flatMap fun row => letters row.chars).Sublist
      (letters line.chars) := by
  have hpieces (pieces : List Line) :
      ((pieces.map fun piece => ((piece.trimEnd width).crop .fold width).mergePlain).flatMap
        fun row => letters row.chars).Sublist (letters (pieces.map chars).flatten) := by
    induction pieces with
    | nil => exact List.Sublist.refl _
    | cons piece rest ih =>
        rw [List.map_cons, List.flatMap_cons, List.map_cons, List.flatten_cons,
          Text.letters_append, chars_mergePlain]
        exact ((letters_crop width _).trans (letters_trimEnd width piece)).append ih
  have hwhole := hpieces (line.expandTabs.divide (breaks .fold width line.expandTabs.chars))
  rw [divide, map_chars_divideAfter, flatten_cutsAfter, letters_expandTabs] at hwhole
  exact hwhole

end Line

/-! ## Printed texts -/

namespace Console

variable {width : Nat}

theorem letters_printLines_sublist (lines : List Line) :
    (letters ((⟨width, false⟩ : Console).printLines lines).toList).Sublist
      (lines.flatMap fun line => letters line.chars) := by
  rw [printLines, String.toList_ofList]
  induction lines with
  | nil => exact List.Sublist.refl _
  | cons line rest ih =>
      have hfeed : letters ['\n'] = [] := by decide
      rw [List.flatMap_cons, List.flatMap_cons, Text.letters_append, Text.letters_append, hfeed,
        List.append_nil, Line.write_false]
      exact (Line.letters_limit width line).append ih

theorem letters_printText_sublist (text : Styled) :
    (letters ((⟨width, false⟩ : Console).printText text).toList).Sublist (letters text.chars) := by
  have hdrawn : ((text.draw ⟨width, .ragged, .fold⟩).flatMap fun line => letters line.chars).Sublist
      (letters (text.map Line.chars).flatten) := by
    rw [Styled.draw]
    split
    · exact List.nil_sublist _
    · induction text with
      | nil => exact List.Sublist.refl _
      | cons line rest ih =>
          rw [List.flatMap_cons, List.flatMap_append, List.map_cons, List.flatten_cons,
            Text.letters_append]
          exact (Line.letters_wrapped width line).append ih
  rw [printText, Styled.chars, Text.letters_intercalate (show Text.isBlank '\n' = true by decide)]
  exact (letters_printLines_sublist _).trans hdrawn

/-- What is printed of a text with markup has no letters but those that are shown of it. -/
theorem letters_printMarkup_sublist {report printed : String}
    (hprinted : (⟨width, false⟩ : Console).printMarkup report = .ok printed) :
    (letters printed.toList).Sublist (letters (Markup.shown report.toList)) := by
  cases hread : Markup.read report with
  | error error =>
      rw [printMarkup, hread] at hprinted
      cases hprinted
  | ok text =>
      rw [printMarkup, hread] at hprinted
      obtain rfl := Except.ok.inj hprinted
      have hkept :
          (Styled.kept (Markup.shown report.toList)).Sublist (Markup.shown report.toList) :=
        List.filter_sublist
      rw [← Markup.chars_of_read hread] at hkept
      exact (letters_printText_sublist text).trans (Text.letters_sublist hkept)

end Console

end Parley.Terminal
