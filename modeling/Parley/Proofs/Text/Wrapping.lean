import Mathlib.Data.List.Basic
import Parley.Proofs.Text.Measure
import Parley.Proofs.Text.Words

/-!
# Wrapped text

The pieces of a word make up the word, and each is as wide as a line at most, or is a single
character.  Lines that are filled with such pieces fit too: a space between two pieces
takes no more than its cell.  So nothing is left to wrap in text that was wrapped, and
wrapping it again changes nothing.
-/

namespace Parley.Text

variable {width : Nat}

/-- Whether a line fits, as far as lines can: a character that is too wide has a line of its
own. -/
def Fits (width : Nat) (line : List Char) : Prop :=
  cellLen line ≤ width ∨ ∃ c, isBlank c = false ∧ line = [c]

theorem fits_nil (width : Nat) : Fits width [] :=
  Or.inl (Nat.zero_le width)

/-! ## Pieces of words -/

theorem splitWordAfter_of_wide {current : List Char} (hcurrent : current ≠ []) {c : Char}
    (hwide : width < cellLen (current ++ [c])) (rest : List Char) :
    splitWordAfter width current (c :: rest) =
      current :: splitWordAfter width [c] rest := by
  rw [splitWordAfter, if_pos]
  simpa using ⟨hcurrent, hwide⟩

theorem splitWordAfter_of_fits {current : List Char} {c : Char}
    (hfits : current = [] ∨ cellLen (current ++ [c]) ≤ width) (rest : List Char) :
    splitWordAfter width current (c :: rest) = splitWordAfter width (current ++ [c]) rest := by
  rw [splitWordAfter, if_neg]
  simpa [Classical.or_iff_not_imp_left] using hfits

/-- What happens to a character of a word: it begins a piece, or goes to the one under
construction. -/
theorem splitWordAfter_cons (width : Nat) (current : List Char) (c : Char)
    (rest : List Char) :
    (current ≠ [] ∧ width < cellLen (current ++ [c]) ∧
      splitWordAfter width current (c :: rest) =
        current :: splitWordAfter width [c] rest) ∨
    ((current = [] ∨ cellLen (current ++ [c]) ≤ width) ∧
      splitWordAfter width current (c :: rest) =
        splitWordAfter width (current ++ [c]) rest) := by
  by_cases hfits : current = [] ∨ cellLen (current ++ [c]) ≤ width
  · exact Or.inr ⟨hfits, splitWordAfter_of_fits hfits rest⟩
  · obtain ⟨hcurrent, hwide⟩ := not_or.mp hfits
    rw [Nat.not_le] at hwide
    exact Or.inl ⟨hcurrent, hwide, splitWordAfter_of_wide hcurrent hwide rest⟩

theorem flatten_splitWordAfter (width : Nat) (current rest : List Char) :
    (splitWordAfter width current rest).flatten = current ++ rest := by
  induction rest generalizing current with
  | nil =>
      rw [splitWordAfter]
      cases current with
      | nil => rfl
      | cons c others => simp
  | cons c rest ih =>
      obtain ⟨-, -, hcons⟩ | ⟨-, hcons⟩ := splitWordAfter_cons width current c rest
      · rw [hcons, List.flatten_cons, ih, List.singleton_append]
      · rw [hcons, ih, List.append_assoc, List.singleton_append]

theorem flatten_splitWord (width : Nat) (word : List Char) :
    (splitWord width word).flatten = word :=
  flatten_splitWordAfter width [] word

theorem exists_splitWordAfter (width : Nat) {current : List Char} (hcurrent : current ≠ [])
    (rest : List Char) :
    ∃ tail others, splitWordAfter width current rest = (current ++ tail) :: others := by
  induction rest generalizing current with
  | nil =>
      refine ⟨[], [], ?_⟩
      rw [splitWordAfter, if_neg (by simpa using hcurrent), List.append_nil]
  | cons c rest ih =>
      obtain ⟨-, -, hcons⟩ | ⟨-, hcons⟩ := splitWordAfter_cons width current c rest
      · exact ⟨[], _, by rw [hcons, List.append_nil]⟩
      · obtain ⟨tail, others, hrest⟩ := ih (List.concat_ne_nil c current)
        exact ⟨c :: tail, others, by rw [hcons, hrest, List.append_assoc, List.singleton_append]⟩

theorem ne_nil_of_mem_splitWordAfter {current rest piece : List Char}
    (hpiece : piece ∈ splitWordAfter width current rest) : piece ≠ [] := by
  induction rest generalizing current with
  | nil =>
      rw [splitWordAfter] at hpiece
      split at hpiece
      case isTrue => exact absurd hpiece List.not_mem_nil
      case isFalse hcurrent =>
          rw [List.mem_singleton.mp hpiece]
          simpa using hcurrent
  | cons c rest ih =>
      obtain ⟨hcurrent, -, hcons⟩ | ⟨-, hcons⟩ := splitWordAfter_cons width current c rest
      · rw [hcons] at hpiece
        obtain rfl | hlater := List.mem_cons.mp hpiece
        · exact hcurrent
        · exact ih hlater
      · exact ih (hcons ▸ hpiece)

/-- A piece grows only as long as it fits. -/
theorem fits_of_mem_splitWordAfter {current rest piece : List Char} (hrest : IsSolid rest)
    (hcurrent : Fits width current)
    (hpiece : piece ∈ splitWordAfter width current rest) : Fits width piece := by
  induction rest generalizing current with
  | nil =>
      rw [splitWordAfter] at hpiece
      split at hpiece
      · exact absurd hpiece List.not_mem_nil
      · exact List.mem_singleton.mp hpiece ▸ hcurrent
  | cons c rest ih =>
      have hlater : IsSolid rest := fun d hd => hrest d (List.mem_cons_of_mem c hd)
      have hsingle : Fits width [c] := Or.inr ⟨c, hrest c List.mem_cons_self, rfl⟩
      obtain ⟨-, -, hcons⟩ | ⟨hfits, hcons⟩ := splitWordAfter_cons width current c rest
      · rw [hcons] at hpiece
        obtain rfl | hpiece := List.mem_cons.mp hpiece
        · exact hcurrent
        · exact ih hlater hsingle hpiece
      · rw [hcons] at hpiece
        refine ih hlater ?_ hpiece
        obtain rfl | hfits := hfits
        · exact hsingle
        · exact Or.inl hfits

/-! ## Filled lines -/

theorem fillLinesAfter_nil_cons (width : Nat) (piece : List Char)
    (rest : List (List Char)) :
    fillLinesAfter width [] (piece :: rest) = fillLinesAfter width piece rest := rfl

/-- What happens to a piece: it goes to the line under construction, behind a space, or
begins a line. -/
theorem fillLinesAfter_cons (width : Nat) {current : List Char} (hcurrent : current ≠ [])
    (piece : List Char) (rest : List (List Char)) :
    (cellLen current + 1 + cellLen piece ≤ width ∧
      fillLinesAfter width current (piece :: rest) =
        fillLinesAfter width (current ++ ' ' :: piece) rest) ∨
    (width < cellLen current + 1 + cellLen piece ∧
      fillLinesAfter width current (piece :: rest) =
        current :: fillLinesAfter width piece rest) := by
  rw [fillLinesAfter, if_neg (by simpa using hcurrent)]
  by_cases hroom : cellLen current + 1 + cellLen piece ≤ width
  · exact Or.inl ⟨hroom, if_pos hroom⟩
  · exact Or.inr ⟨Nat.not_le.mp hroom, if_neg hroom⟩

/-- What holds of all pieces holds of all lines that are filled with them, if two parts of a
line for which there is room can be joined by a space. -/
theorem forall_mem_fillLinesAfter (holds : List Char → Prop)
    (hjoin : ∀ line piece, holds line → holds piece →
      cellLen line + 1 + cellLen piece ≤ width → holds (line ++ ' ' :: piece))
    {current : List Char} {pieces : List (List Char)} (hcurrent : holds current)
    (hpieces : ∀ piece ∈ pieces, holds piece) :
    ∀ line ∈ fillLinesAfter width current pieces, holds line := by
  induction pieces generalizing current with
  | nil =>
      intro line hline
      rw [List.mem_singleton.mp hline]
      exact hcurrent
  | cons piece rest ih =>
      obtain ⟨hpiece, hrest⟩ := List.forall_mem_cons.mp hpieces
      by_cases hempty : current = []
      · rw [hempty, fillLinesAfter_nil_cons]
        exact ih hpiece hrest
      · obtain ⟨hroom, hcons⟩ | ⟨-, hcons⟩ := fillLinesAfter_cons width hempty piece rest
        · rw [hcons]
          exact ih (hjoin current piece hcurrent hpiece hroom) hrest
        · rw [hcons]
          exact List.forall_mem_cons.mpr ⟨hcurrent, ih hpiece hrest⟩

theorem fillLinesAfter_ne_nil (width : Nat) (current : List Char)
    (pieces : List (List Char)) : fillLinesAfter width current pieces ≠ [] := by
  induction pieces generalizing current with
  | nil => exact List.cons_ne_nil _ _
  | cons piece rest ih =>
      rw [fillLinesAfter]
      split
      · exact ih piece
      · split
        · exact ih _
        · exact List.cons_ne_nil _ _

/-! ## Wrapped lines -/

theorem isSolid_and_fits_of_mem_pieces {line piece : List Char}
    (hpiece : piece ∈ (words line).flatMap (splitWord width)) :
    IsSolid piece ∧ Fits width piece := by
  obtain ⟨word, hword, hpiece⟩ := List.mem_flatMap.mp hpiece
  have hsolid := isSolid_of_mem_words hword
  refine ⟨?_, fits_of_mem_splitWordAfter hsolid (fits_nil width) hpiece⟩
  intro c hc
  apply hsolid
  rw [← flatten_splitWord width word]
  exact List.mem_flatten.mpr ⟨piece, hpiece, hc⟩

theorem wrapLine_ne_nil (width : Nat) (line : List Char) : wrapLine width line ≠ [] := by
  rw [wrapLine]
  split
  · exact List.cons_ne_nil _ _
  · exact fillLinesAfter_ne_nil width [] _

theorem fits_of_mem_wrapLine {line row : List Char} (hrow : row ∈ wrapLine width line) :
    Fits width row := by
  rw [wrapLine] at hrow
  split at hrow
  case isTrue hfits => exact List.mem_singleton.mp hrow ▸ Or.inl hfits
  case isFalse =>
      refine forall_mem_fillLinesAfter (Fits width) ?_ (fits_nil width) ?_ row hrow
      · intro line piece _ _ hroom
        exact Or.inl (Nat.le_trans (cellLen_append_space_le line piece) hroom)
      · intro piece hpiece
        exact (isSolid_and_fits_of_mem_pieces hpiece).2

/-- Wrapping adds nothing but spaces. -/
theorem mem_of_mem_wrapLine {line row : List Char} {c : Char}
    (hrow : row ∈ wrapLine width line) (hc : c ∈ row) : c = ' ' ∨ c ∈ line := by
  rw [wrapLine] at hrow
  split at hrow
  case isTrue => exact Or.inr (List.mem_singleton.mp hrow ▸ hc)
  case isFalse =>
      refine forall_mem_fillLinesAfter (fun row => c ∈ row → c = ' ' ∨ c ∈ line) ?_ ?_ ?_
        row hrow hc
      · intro row piece hfront hpiece _ hmem
        obtain hmem | hmem := List.mem_append.mp hmem
        · exact hfront hmem
        · obtain hspace | hmem := List.mem_cons.mp hmem
          · exact Or.inl hspace
          · exact hpiece hmem
      · exact fun hmem => absurd hmem List.not_mem_nil
      · intro piece hpiece hmem
        obtain ⟨word, hword, hpiece⟩ := List.mem_flatMap.mp hpiece
        have hmemWord : c ∈ word := by
          rw [← flatten_splitWord width word]
          exact List.mem_flatten.mpr ⟨piece, hpiece, hmem⟩
        exact Or.inr (mem_of_mem_pieces (List.mem_filter.mp hword).1 hmemWord).1

theorem newline_notMem_of_mem_wrapLine {line row : List Char} (hline : '\n' ∉ line)
    (hrow : row ∈ wrapLine width line) : '\n' ∉ row := by
  intro hmem
  obtain hspace | hmem := mem_of_mem_wrapLine hrow hmem
  · exact absurd hspace (by decide)
  · exact hline hmem

/-- A line that fits is left alone, also one that fits no better than it can. -/
theorem wrapLine_of_fits {line : List Char} (hline : Fits width line) :
    wrapLine width line = [line] := by
  rw [wrapLine]
  split
  case isTrue => rfl
  case isFalse hwide =>
      obtain hfits | ⟨c, hc, rfl⟩ := hline
      · exact absurd hfits hwide
      · have hsolid : IsSolid [c] := by simpa [IsSolid] using hc
        rw [reflow, words_of_isSolid hsolid (List.cons_ne_nil c []), List.flatMap_singleton]
        rfl

theorem mem_wrapLines_imp {s row : List Char} (hrow : row ∈ wrapLines width s) :
    Fits width row ∧ '\n' ∉ row := by
  obtain ⟨line, hline, hrow⟩ := List.mem_flatMap.mp hrow
  exact ⟨fits_of_mem_wrapLine hrow,
    newline_notMem_of_mem_wrapLine (newline_notMem_of_mem_lines hline) hrow⟩

theorem wrapLines_ne_nil (width : Nat) (s : List Char) : wrapLines width s ≠ [] := by
  obtain ⟨line, rest, hlines⟩ := List.exists_cons_of_ne_nil (lines_ne_nil s)
  rw [wrapLines, hlines, List.flatMap_cons]
  exact List.append_ne_nil_of_left_ne_nil (wrapLine_ne_nil width line) _

theorem wrapLines_intercalate (width : Nat) (s : List Char) :
    wrapLines width (['\n'].intercalate (wrapLines width s)) = wrapLines width s := by
  have hlines : lines (['\n'].intercalate (wrapLines width s)) = wrapLines width s :=
    lines_intercalate (wrapLines_ne_nil width s) fun row hrow => (mem_wrapLines_imp hrow).2
  rw [wrapLines, hlines]
  calc (wrapLines width s).flatMap (wrapLine width)
      = (wrapLines width s).flatMap fun row => [row] :=
        List.flatMap_congr fun row hrow => wrapLine_of_fits (mem_wrapLines_imp hrow).1
    _ = wrapLines width s := List.flatMap_singleton' _

/-- Wrapping wrapped text changes nothing, at any width. -/
theorem wrapText_wrapText (s : String) (width : Int) :
    wrapText (wrapText s width) width = wrapText s width := by
  rw [wrapText, wrapText, String.toList_ofList, wrapLines_intercalate]

end Parley.Text
