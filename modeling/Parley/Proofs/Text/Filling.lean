import Mathlib.Data.List.Forall2
import Parley.Proofs.Text.Spacing

/-!
# Filled lines

Wrapped lines fit, and they are as full as they can be.  A line that is too wide becomes rows
of words, and of pieces of the words that are too wide themselves.  A row ends where the next
word or piece would not have fitted behind a space, and a piece ends where the next character
of its word would not have fitted.
-/

namespace Parley.Text

/-- How a word is cut: a piece ends only where its next character would make it too wide. -/
structure IsCut (width : Nat) (word : List Char) (pieces : List (List Char)) : Prop where
  flatten_eq : pieces.flatten = word
  ne_nil : ∀ piece ∈ pieces, piece ≠ []
  fits : ∀ piece ∈ pieces, Fits width piece
  full : pieces.IsChain fun piece next =>
    ∃ c tail, next = c :: tail ∧ width < cellLen (piece ++ [c])

/-- Whether a row has no room for a piece behind a space.  The cells of the three add up,
unless the row ends in a joiner, which swallows the space. -/
structure NoRoom (width : Nat) (row piece : List Char) : Prop where
  lt_sum : width < cellLen row + 1 + cellLen piece
  lt_cellLen : joiner ∉ row → width < cellLen (row ++ ' ' :: piece)

/-- The row of some pieces. -/
def rowOf (group : List (List Char)) : List Char :=
  [' '].intercalate group

/-- How pieces fill rows: a row ends only where there is no room for the next piece. -/
structure IsFilled (width : Nat) (pieces : List (List Char))
    (groups : List (List (List Char))) : Prop where
  flatten_eq : groups.flatten = pieces
  ne_nil : groups ≠ []
  group_ne_nil : pieces ≠ [] → ∀ group ∈ groups, group ≠ []
  full : groups.IsChain fun group next =>
    ∃ piece rest, next = piece :: rest ∧ NoRoom width (rowOf group) piece

/-- What becomes of a line: it stays if it fits, and otherwise the pieces of its words fill
rows. -/
def WrappedLine (width : Nat) (line : List Char) (rows : List (List Char)) : Prop :=
  cellLen line ≤ width ∧ rows = [line] ∨
    width < cellLen line ∧ ∃ cuts groups, List.Forall₂ (IsCut width) (words line) cuts ∧
      IsFilled width cuts.flatten groups ∧ rows = groups.map rowOf

variable {width : Nat}

/-! ## Room -/

theorem noRoom_of_lt {row piece : List Char}
    (hwide : width < cellLen row + 1 + cellLen piece) : NoRoom width row piece :=
  ⟨hwide, fun hrow => (cellLen_append_space hrow piece).symm ▸ hwide⟩

/-- Only a character of two cells is too wide, and only for a line of one cell. -/
theorem cellLen_le_or_of_fits (hwidth : 0 < width) {row : List Char} (hrow : Fits width row) :
    cellLen row ≤ width ∨ width = 1 ∧ ∃ c, row = [c] ∧ charCells c = 2 := by
  obtain hfits | ⟨c, -, rfl⟩ := hrow
  · exact Or.inl hfits
  · have hsingle := cellLen_singleton_le c
    have htwo := charCells_le_two c
    by_cases hfits : cellLen [c] ≤ width
    · exact Or.inl hfits
    · exact Or.inr ⟨by omega, c, rfl, by omega⟩

/-! ## Rows -/

theorem isCut_splitWord {word : List Char} (hword : IsSolid word) :
    IsCut width word (splitWord width word) where
  flatten_eq := flatten_splitWord width word
  ne_nil _ := ne_nil_of_mem_splitWordAfter
  fits _ := fits_of_mem_splitWordAfter hword (fits_nil width)
  full := isChain_splitWordAfter width [] word

theorem rowOf_concat {group : List (List Char)} (hgroup : group ≠ []) (piece : List Char) :
    rowOf (group ++ [piece]) = rowOf group ++ ' ' :: piece := by
  rw [rowOf, intercalate_append _ hgroup (List.cons_ne_nil piece []), List.intercalate_singleton,
    List.append_assoc, List.singleton_append]
  rfl

theorem rowOf_ne_nil {group : List (List Char)} (hgroup : group ≠ [])
    (hpieces : ∀ piece ∈ group, piece ≠ []) : rowOf group ≠ [] := by
  obtain ⟨piece, rest, rfl⟩ := List.exists_cons_of_ne_nil hgroup
  have hpiece : piece ≠ [] := hpieces piece List.mem_cons_self
  rw [rowOf]
  by_cases hrest : rest = []
  · rw [hrest, List.intercalate_singleton]
    exact hpiece
  · rw [List.intercalate_cons_of_ne_nil hrest, List.append_assoc]
    exact List.append_ne_nil_of_left_ne_nil hpiece _

/-- The row under construction takes in some of the pieces, and the others fill the rows after
it. -/
theorem exists_isFilled (width : Nat) {group pieces : List (List Char)} (hgroup : group ≠ [])
    (hgroupPieces : ∀ piece ∈ group, piece ≠ []) (hpieces : ∀ piece ∈ pieces, piece ≠ []) :
    ∃ later others,
      fillLinesAfter width (rowOf group) pieces = ((group ++ later) :: others).map rowOf ∧
      IsFilled width (group ++ pieces) ((group ++ later) :: others) := by
  induction pieces generalizing group with
  | nil =>
      refine ⟨[], [], ?_, ?_, List.cons_ne_nil _ _, ?_, List.isChain_singleton _⟩
      · rw [List.append_nil]
        rfl
      · rw [List.flatten_singleton]
      · intro _ row hrow
        rw [List.mem_singleton.mp hrow, List.append_nil]
        exact hgroup
  | cons piece rest ih =>
      obtain ⟨hpiece, hrest⟩ := List.forall_mem_cons.mp hpieces
      obtain ⟨-, hcons⟩ | ⟨hwide, hcons⟩ :=
        fillLinesAfter_cons width (rowOf_ne_nil hgroup hgroupPieces) piece rest
      · have hlonger : ∀ next ∈ group ++ [piece], next ≠ [] := by
          intro next hnext
          obtain hold | hnew := List.mem_append.mp hnext
          · exact hgroupPieces next hold
          · exact List.mem_singleton.mp hnew ▸ hpiece
        obtain ⟨later, others, hrows, hfilled⟩ := ih (List.concat_ne_nil piece group) hlonger hrest
        refine ⟨piece :: later, others, ?_, ?_⟩
        · rw [hcons, ← rowOf_concat hgroup, hrows, List.append_assoc, List.singleton_append]
        · rw [List.append_assoc, List.append_assoc] at hfilled
          exact hfilled
      · have hsingle : ∀ next ∈ [piece], next ≠ [] := by simpa using hpiece
        have hpieceRow : rowOf [piece] = piece := List.intercalate_singleton
        obtain ⟨later, others, hrows, hfilled⟩ := ih (List.cons_ne_nil piece []) hsingle hrest
        rw [hpieceRow] at hrows
        refine ⟨[], ([piece] ++ later) :: others, ?_, ?_, List.cons_ne_nil _ _, ?_, ?_⟩
        · rw [hcons, hrows, List.append_nil]
          rfl
        · rw [List.flatten_cons, hfilled.flatten_eq, List.append_nil, List.singleton_append]
        · intro _ row hrow
          rw [List.append_nil] at hrow
          obtain rfl | hlater := List.mem_cons.mp hrow
          · exact hgroup
          · exact hfilled.group_ne_nil (List.cons_ne_nil _ _) row hlater
        · refine List.isChain_cons_cons.mpr ⟨⟨piece, later, rfl, ?_⟩, hfilled.full⟩
          rw [List.append_nil]
          exact noRoom_of_lt hwide

theorem exists_isFilled_fillLines (width : Nat) {pieces : List (List Char)}
    (hpieces : ∀ piece ∈ pieces, piece ≠ []) :
    ∃ groups, fillLinesAfter width [] pieces = groups.map rowOf ∧
      IsFilled width pieces groups := by
  cases pieces with
  | nil =>
      refine ⟨[[]], rfl, rfl, List.cons_ne_nil _ _, ?_, List.isChain_singleton _⟩
      intro hne
      exact absurd rfl hne
  | cons piece rest =>
      obtain ⟨hpiece, hrest⟩ := List.forall_mem_cons.mp hpieces
      have hsingle : ∀ next ∈ [piece], next ≠ [] := by simpa using hpiece
      have hpieceRow : rowOf [piece] = piece := List.intercalate_singleton
      obtain ⟨later, others, hrows, hfilled⟩ :=
        exists_isFilled width (List.cons_ne_nil piece []) hsingle hrest
      rw [hpieceRow] at hrows
      exact ⟨_, (fillLinesAfter_nil_cons width piece rest).trans hrows, hfilled⟩

theorem wrappedLine_wrapLine (width : Nat) (line : List Char) :
    WrappedLine width line (wrapLine width line) := by
  rw [wrapLine]
  split
  case isTrue hfits => exact Or.inl ⟨hfits, rfl⟩
  case isFalse hwide =>
      have hcuts : List.Forall₂ (IsCut width) (words line) ((words line).map (splitWord width)) :=
        List.forall₂_map_right_iff.mpr
          (List.forall₂_same.mpr fun _ hword => isCut_splitWord (isSolid_of_mem_words hword))
      have hpieces : ∀ piece ∈ (words line).flatMap (splitWord width), piece ≠ [] := by
        intro piece hpiece
        obtain ⟨_, -, hpiece⟩ := List.mem_flatMap.mp hpiece
        exact ne_nil_of_mem_splitWordAfter hpiece
      obtain ⟨groups, hrows, hfilled⟩ := exists_isFilled_fillLines width hpieces
      rw [List.flatMap_def] at hfilled
      exact Or.inr ⟨Nat.not_le.mp hwide, _, groups, hcuts, hfilled, hrows⟩

/-! ## Wrapped text -/

theorem lines_wrapText (s : String) (width : Int) :
    lines (wrapText s width).toList = wrapLines (lineWidth width) s.toList := by
  rw [wrapText, String.toList_ofList]
  exact lines_intercalate (wrapLines_ne_nil _ _) fun row hrow => (mem_wrapLines_imp hrow).2

theorem notMem_of_mem_wrapLines {s row : List Char} {c : Char} (hs : c ∉ s) (hc : c ≠ ' ')
    (hrow : row ∈ wrapLines width s) : c ∉ row := by
  obtain ⟨line, hline, hrow⟩ := List.mem_flatMap.mp hrow
  intro hmem
  obtain hspace | hmem := mem_of_mem_wrapLine hrow hmem
  · exact hc hspace
  · exact hs (mem_of_mem_pieces hline hmem).1

/-- What the lines of a wrapped text are, at any width: each fits, but for a character of two
cells on a line of one, and each line of the text stays or becomes rows that are as full as
they can be.  Without joiners and selectors the width of each row, and of each part of it, is
the sum of the cells of its characters. -/
theorem wrapText_fills (s : String) (width : Int) :
    (∀ row ∈ lines (wrapText s width).toList,
      (cellLen row : Int) ≤ max width 1 ∨ width ≤ 1 ∧ ∃ c, row = [c] ∧ charCells c = 2) ∧
    (∃ blocks, List.Forall₂ (WrappedLine (lineWidth width)) (lines s.toList) blocks ∧
      lines (wrapText s width).toList = blocks.flatten) ∧
    (joiner ∉ s.toList → emojiSelector ∉ s.toList →
      ∀ row ∈ lines (wrapText s width).toList, ∀ part, part <:+: row →
        cellLen part = sumCells part) := by
  have hwidth : (lineWidth width : Int) = max width 1 := by
    rw [lineWidth]
    omega
  rw [lines_wrapText]
  refine ⟨?_, ⟨(lines s.toList).map (wrapLine (lineWidth width)), ?_, ?_⟩, ?_⟩
  · intro row hrow
    obtain hfits | ⟨hone, hwide⟩ :=
      cellLen_le_or_of_fits (by omega) (mem_wrapLines_imp hrow).1
    · exact Or.inl (by omega)
    · exact Or.inr ⟨by omega, hwide⟩
  · exact List.forall₂_map_right_iff.mpr
      (List.forall₂_same.mpr fun line _ => wrappedLine_wrapLine _ line)
  · rw [wrapLines, List.flatMap_def]
  · intro hjoiner hselector row hrow part hpart
    have hrowJoiner := notMem_of_mem_wrapLines hjoiner (by decide) hrow
    have hrowSelector := notMem_of_mem_wrapLines hselector (by decide) hrow
    exact cellLen_eq_sumCells (fun hmem => hrowJoiner (hpart.subset hmem))
      fun hmem => hrowSelector (hpart.subset hmem)

example : wrapText "the 世界 fox" 3 = "the\n世\n界\nfox" := by decide +kernel

end Parley.Text
