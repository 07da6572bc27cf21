import Parley.Proofs.Terminal.Breaks
import Parley.Proofs.Text.Words
import Parley.Terminal.Console

/-!
# Printed text

Without colours, a text that is printed keeps all of its letters in their order: it is broken
into lines, and blanks are added or lost where a line ends, but nothing is cut off.  The width
is that of the widest character at least, the text holds no joiner, and spaces are its only
blanks.
-/

namespace Parley.Terminal

open Text (isBlank dropTailWhile cellLen joiner letters)

namespace Line

/-! ## Pieces of a line -/

theorem chars_take (n : Nat) (line : Line) : (line.take n).chars = line.chars.take n := by
  fun_induction take n line with
  | case1 => rw [chars_nil, List.take_nil]
  | case2 n run rest hshort ih =>
      rw [chars_cons, chars_cons, ih, List.take_append, List.take_of_length_le hshort]
  | case3 n run rest hlong =>
      have hnone : n - run.text.length = 0 := Nat.sub_eq_zero_of_le (Nat.le_of_not_le hlong)
      rw [chars_ofChars, chars_cons, List.take_append, hnone, List.take_zero, List.append_nil]

theorem chars_drop (n : Nat) (line : Line) : (line.drop n).chars = line.chars.drop n := by
  fun_induction drop n line with
  | case1 => rw [chars_nil, List.drop_nil]
  | case2 n run rest hshort ih =>
      rw [chars_cons, ih, List.drop_append, List.drop_eq_nil_of_le hshort, List.nil_append]
  | case3 n run rest hlong =>
      have hnone : n - run.text.length = 0 := Nat.sub_eq_zero_of_le (Nat.le_of_not_le hlong)
      rw [chars_cons, chars_cons, List.drop_append, hnone, List.drop_zero]

theorem map_chars_divideAfter (done : Nat) (line : Line) (places : List Nat) :
    (line.divideAfter done places).map chars = cutsAfter done line.chars places := by
  induction places generalizing done line with
  | nil => rfl
  | cons place rest ih =>
      rw [divideAfter, List.map_cons, ih, cutsAfter, chars_take, chars_drop]

theorem chars_mergePlain (line : Line) : line.mergePlain.chars = line.chars := by
  fun_induction mergePlain line with
  | case1 => rfl
  | case2 run rest next others hmerged hplain ih =>
      rw [chars_cons run rest, ← ih, hmerged, chars_cons, chars_cons, List.append_assoc]
  | case3 run rest next others hmerged hplain ih =>
      rw [chars_cons, chars_cons run rest, ← ih, hmerged]
  | case4 run rest hmerged ih => rw [chars_cons, chars_cons, ← ih, hmerged]

theorem expandTabs_of_notMem {line : Line} (htab : '\t' ∉ line.chars) : line.expandTabs = line := by
  rw [expandTabs, if_neg]
  rwa [List.contains_iff_mem]

/-! ## Lines with spaces behind them -/

/-- Whether a line is a text with spaces behind it. -/
def IsPadded (core : List Char) (line : Line) : Prop :=
  ∃ n, line.chars = core ++ List.replicate n ' '

theorem isPadded_of_isPlainText {line : Line} (hplain : IsPlainText line.chars) :
    IsPadded (dropTailWhile isBlank line.chars) line := by
  obtain ⟨tail, hsplit, hblank, -⟩ := Text.exists_dropTailWhile isBlank line.chars
  have hspaces : ∀ c ∈ tail, c = ' ' := by
    intro c hc
    apply hplain.blank c _ (hblank c hc)
    rw [hsplit]
    exact List.mem_append_right _ hc
  refine ⟨tail.length, ?_⟩
  rw [← List.eq_replicate_of_mem hspaces]
  exact hsplit

section Padded

variable {width : Nat} {core : List Char} {line : Line}

/-- Only blanks are cut off at the end. -/
theorem IsPadded.trimEnd (h : IsPadded core line)
    (hcore : dropTailWhile isBlank line.chars = core) : IsPadded core (line.trimEnd width) := by
  obtain ⟨n, hchars⟩ := h
  rw [Line.trimEnd]
  dsimp only
  split
  case isTrue => exact ⟨n, hchars⟩
  case isFalse =>
      have hlength : line.chars.length = core.length + n := by
        rw [hchars, List.length_append, List.length_replicate]
      refine ⟨n - min n (core.length + n - width), ?_⟩
      have hkept : core.length + n - min (core.length + n - core.length)
          (core.length + n - width) - core.length =
            n - min n (core.length + n - width) := by omega
      have hwhole : core.length ≤ core.length + n - min (core.length + n - core.length)
          (core.length + n - width) := by omega
      rw [chars_take, hcore, hlength, hchars, List.take_append, List.take_of_length_le hwhole,
        hkept, List.take_replicate, Nat.min_eq_left (Nat.sub_le _ _)]

theorem IsPadded.notMem (h : IsPadded core line) (hjoiner : joiner ∉ core) :
    joiner ∉ line.chars := by
  obtain ⟨n, hchars⟩ := h
  rw [hchars, List.mem_append, List.mem_replicate]
  rintro (hmem | ⟨-, hspace⟩)
  · exact hjoiner hmem
  · exact absurd hspace (by decide)

/-- A line that fits without the spaces behind it is cropped in these alone. -/
theorem IsPadded.crop (h : IsPadded core line) (hjoiner : joiner ∉ core) (hwidth : 0 < width)
    (hfits : cellLen core ≤ width) :
    IsPadded core (line.crop .fold width) ∧ (line.crop .fold width).cells ≤ width := by
  have hjoined := h.notMem hjoiner
  obtain ⟨n, hchars⟩ := h
  rw [Line.crop]
  split
  case isTrue hnarrow => exact ⟨⟨n, hchars⟩, hnarrow⟩
  case isFalse =>
      have hcells := Text.cellLen_fitCells (fun hhead => hjoined (List.mem_of_head? hhead))
        (fun hend => hjoined (List.mem_of_getLast? hend)) width
      obtain ⟨k, hcut⟩ := Text.fitCells_append_spaces hjoiner hwidth hfits n
      rw [IsPadded, cells, chars_repaint, hcells]
      exact ⟨⟨k, by rw [hchars, hcut]⟩, Nat.le_of_eq rfl⟩

theorem IsPadded.letters (h : IsPadded core line) : letters line.chars = letters core := by
  obtain ⟨n, hchars⟩ := h
  rw [hchars, Text.letters_append, Text.letters_spaces, List.append_nil]

end Padded

/-- Whether no run of a line ends in a joiner. -/
def IsClosed (line : Line) : Prop :=
  ∀ run ∈ line, Text.IsClosed run.text

theorem isClosed_of_notMem {line : Line} (hjoiner : joiner ∉ line.chars) : line.IsClosed :=
  fun _ hrun => Text.isClosed_of_notMem fun hmem =>
    hjoiner (List.mem_flatMap.mpr ⟨_, hrun, hmem⟩)

/-- Runs that are measured one by one take no more than the line. -/
theorem runCells_le_cells {line : Line} (hclosed : line.IsClosed) :
    line.runCells ≤ line.cells := by
  induction line with
  | nil => exact Nat.zero_le _
  | cons run rest ih =>
      obtain ⟨hrun, hrest⟩ := List.forall_mem_cons.mp hclosed
      calc runCells (run :: rest)
          = cellLen run.text + runCells rest := rfl
        _ ≤ cellLen run.text + cells rest := Nat.add_le_add_left (ih hrest) _
        _ ≤ cells (run :: rest) := by
          rw [cells, cells, chars_cons]
          exact Text.cellLen_add_le hrun _

/-- A wrapped line has the letters of its part of the text, and fits the width. -/
structure IsLineOf (width : Nat) (part : List Char) (line : Line) : Prop where
  letters : letters line.chars = letters part
  cells : line.runCells ≤ width

theorem isLineOf_wrapped {width : Nat} (hwidth : 2 ≤ width) {piece : Line}
    (hplain : IsPlainText piece.chars) (hfits : FitsTrimmed width piece.chars) :
    IsLineOf width piece.chars ((piece.trimEnd width).crop .fold width).mergePlain := by
  have hpadded := isPadded_of_isPlainText hplain
  have hjoiner : joiner ∉ dropTailWhile isBlank piece.chars := fun hmem =>
    hplain.joiner ((Text.dropTailWhile_prefix isBlank piece.chars).subset hmem)
  have htrimmed : IsPadded _ (piece.trimEnd width) := hpadded.trimEnd rfl
  obtain ⟨hcropped, hcells⟩ := htrimmed.crop hjoiner (by omega) hfits
  have hmerged : joiner ∉ ((piece.trimEnd width).crop .fold width).mergePlain.chars := by
    rw [chars_mergePlain]
    exact hcropped.notMem hjoiner
  refine ⟨?_, (runCells_le_cells (isClosed_of_notMem hmerged)).trans ?_⟩
  · rw [chars_mergePlain, hcropped.letters, hpadded.letters]
  · rwa [cells, chars_mergePlain]

theorem limit_of_le {width : Nat} {line : Line} (hcells : line.runCells ≤ width) :
    line.limit width = line := if_pos hcells

theorem write_false (line : Line) : line.write false = line.chars := by
  rw [write, chars]
  congr 1
  funext run
  rw [Run.write, Bool.not_false, Bool.or_true, if_pos rfl]

/-- A line is wrapped into lines that fit the width and have its letters between them. -/
theorem letters_wrap {width : Nat} (hwidth : 2 ≤ width) {line : Line}
    (hplain : IsPlainText line.chars) :
    ((line.wrap ⟨width, .ragged, .fold⟩).flatMap fun row => letters row.chars) =
        letters line.chars ∧
      ∀ row ∈ line.wrap ⟨width, .ragged, .fold⟩, row.runCells ≤ width := by
  have htab : '\t' ∉ line.chars := fun hmem => absurd (hplain.blank '\t' hmem rfl) (by decide)
  have hwrap : line.wrap ⟨width, .ragged, .fold⟩ =
      (line.divide (breaks .fold width line.chars)).map fun piece =>
        ((piece.trimEnd width).crop .fold width).mergePlain := by
    rw [wrap, expandTabs_of_notMem htab]
    rfl
  have hcuts := map_chars_divideAfter 0 line (breaks .fold width line.chars)
  have hflatten := flatten_cutsAfter 0 line.chars (breaks .fold width line.chars)
  have hrow : ∀ piece ∈ line.divide (breaks .fold width line.chars),
      IsLineOf width piece.chars ((piece.trimEnd width).crop .fold width).mergePlain := by
    intro piece hpiece
    have hcut : piece.chars ∈ cutsAfter 0 line.chars (breaks .fold width line.chars) :=
      hcuts ▸ List.mem_map_of_mem hpiece
    have hsub : piece.chars ⊆ line.chars := by
      intro c hc
      rw [← hflatten]
      exact List.mem_flatten_of_mem hcut hc
    exact isLineOf_wrapped hwidth (hplain.of_subset hsub) (fits_of_mem_cuts hwidth hplain _ hcut)
  rw [hwrap, List.flatMap_map]
  refine ⟨?_, List.forall_mem_map.mpr fun piece hpiece => (hrow piece hpiece).cells⟩
  calc (line.divide (breaks .fold width line.chars)).flatMap
        (fun piece => letters ((piece.trimEnd width).crop .fold width).mergePlain.chars)
      = (line.divide (breaks .fold width line.chars)).flatMap (fun piece => letters piece.chars) :=
        List.flatMap_congr fun piece hpiece => (hrow piece hpiece).letters
    _ = letters ((line.divide (breaks .fold width line.chars)).map chars).flatten := by
        rw [letters, List.filter_flatten, List.map_map]
        rfl
    _ = letters line.chars := by rw [divide, hcuts, hflatten]

end Line

namespace Console

variable {width : Nat}

theorem letters_printLines {lines : List Line} (hfits : ∀ line ∈ lines, line.runCells ≤ width) :
    letters ((⟨width, false⟩ : Console).printLines lines).toList =
      lines.flatMap fun line => letters line.chars := by
  rw [printLines, String.toList_ofList]
  induction lines with
  | nil => rfl
  | cons line rest ih =>
      obtain ⟨hline, hrest⟩ := List.forall_mem_cons.mp hfits
      rw [List.flatMap_cons, List.flatMap_cons, Text.letters_append, Text.letters_append, ih hrest,
        Line.limit_of_le hline, Line.write_false]
      exact congrArg (· ++ _) (List.append_nil _)

/-- What is printed has the letters of the text. -/
theorem letters_printText (hwidth : 2 ≤ width) {text : Styled}
    (hplain : ∀ line ∈ text, Line.IsPlainText line.chars) :
    letters ((⟨width, false⟩ : Console).printText text).toList = letters text.chars := by
  have hpositive : width ≠ 0 := by omega
  have hdraw : text.draw ⟨width, .ragged, .fold⟩ =
      text.flatMap (Line.wrap ⟨width, .ragged, .fold⟩) := if_neg hpositive
  have hwrap (line : Line) (hline : line ∈ text) := Line.letters_wrap hwidth (hplain line hline)
  rw [printText, hdraw, letters_printLines, Styled.chars,
    Text.letters_intercalate (show isBlank '\n' = true from rfl), List.flatMap_assoc]
  · calc text.flatMap (fun line =>
          (line.wrap ⟨width, .ragged, .fold⟩).flatMap fun row => letters row.chars)
        = text.flatMap (fun line => letters line.chars) :=
          List.flatMap_congr fun line hline => (hwrap line hline).1
      _ = letters (text.map Line.chars).flatten := by
          rw [letters, List.filter_flatten, List.map_map]
          rfl
  · intro row hrow
    obtain ⟨line, hline, hrow⟩ := List.mem_flatMap.mp hrow
    exact (hwrap line hline).2 row hrow

end Console

end Parley.Terminal
