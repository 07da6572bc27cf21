import Parley.Text.Wrap

/-!
# Rows of narrow text

Text whose characters take one cell each is as wide as it is long, and the rows of each of
its lines are its length over the width, rounded up.
-/

namespace Parley.Text

/-- A character that takes one cell. -/
def IsNarrow (c : Char) : Prop :=
  charCells c = 1

/-- Controls take no cell, so a character that takes one is no control. -/
theorem IsNarrow.ne {c control : Char} (hc : IsNarrow c) (hcontrol : charCells control = 0) :
    c ≠ control := by
  intro heq
  rw [IsNarrow, heq, hcontrol] at hc
  exact Nat.zero_ne_one hc

theorem charCells_joiner : charCells joiner = 0 := by
  decide +kernel

theorem charCells_emojiSelector : charCells emojiSelector = 0 := by
  decide +kernel

section Narrow

variable {line : List Char} (hline : ∀ c ∈ line, IsNarrow c)
include hline

theorem expandTabsAfter_of_narrow (column : Nat) : expandTabsAfter column line = line := by
  induction line generalizing column with
  | nil => rfl
  | cons c rest ih =>
      have hc := hline c List.mem_cons_self
      have hfeed : c ≠ '\n' := hc.ne (by decide)
      have hreturn : c ≠ '\r' := hc.ne (by decide)
      have hends : (c = '\n' || c = '\r') = false := by
        rw [decide_eq_false hfeed, decide_eq_false hreturn]
        rfl
      rw [expandTabsAfter, if_neg (hc.ne (by decide)), hends, if_neg Bool.false_ne_true,
        ih fun d hd => hline d (List.mem_cons_of_mem _ hd)]

theorem cellLenAfter_of_narrow (last : Option Char) : cellLenAfter last line = line.length := by
  induction line generalizing last with
  | nil => rfl
  | cons c rest ih =>
      have hc := hline c List.mem_cons_self
      have hcells : charCells c = 1 := hc
      rw [cellLenAfter.eq_def]
      dsimp only
      rw [if_neg (hc.ne charCells_joiner), if_neg (hc.ne charCells_emojiSelector), hcells,
        if_neg Nat.one_ne_zero, ih fun d hd => hline d (List.mem_cons_of_mem _ hd),
        List.length_cons, Nat.add_comm]

theorem lineRows_of_narrow (width : Nat) :
    lineRows width line = max 1 ((line.length + width - 1) / width) := by
  rw [lineRows, expandTabs, expandTabsAfter_of_narrow hline, cellLen,
    cellLenAfter_of_narrow hline]

end Narrow

theorem lineWidth_of_pos {width : Nat} (hwidth : 0 < width) : lineWidth width = width := by
  rw [lineWidth]
  omega

/-! ## Lines -/

theorem pieces_of_cut {α : Type} (cut : α → Bool) {c : α} (hc : cut c = true)
    (rest : List α) : pieces cut (c :: rest) = [] :: pieces cut rest := by
  rw [pieces, if_pos hc]

theorem pieces_of_not_cut {α : Type} (cut : α → Bool) {c : α} (hc : cut c = false)
    (rest : List α) :
    ∃ first others, pieces cut rest = first :: others ∧
      pieces cut (c :: rest) = (c :: first) :: others := by
  cases hrest : pieces cut rest with
  | nil => exact absurd hrest (pieces_ne_nil cut rest)
  | cons first others =>
      refine ⟨first, others, rfl, ?_⟩
      rw [pieces, if_neg (ne_true_of_eq_false hc), hrest]

theorem mem_of_mem_pieces {α : Type} {cut : α → Bool} {s piece : List α} {c : α}
    (hpiece : piece ∈ pieces cut s) (hc : c ∈ piece) : c ∈ s ∧ cut c = false := by
  induction s generalizing piece with
  | nil =>
      rw [pieces, List.mem_singleton] at hpiece
      rw [hpiece] at hc
      exact absurd hc List.not_mem_nil
  | cons d rest ih =>
      cases hd : cut d with
      | true =>
          rw [pieces_of_cut cut hd, List.mem_cons] at hpiece
          obtain rfl | hlater := hpiece
          · exact absurd hc List.not_mem_nil
          · obtain ⟨hrest, hcut⟩ := ih hlater hc
            exact ⟨List.mem_cons_of_mem d hrest, hcut⟩
      | false =>
          obtain ⟨first, others, hrest, hcons⟩ := pieces_of_not_cut cut hd rest
          rw [hrest] at ih
          rw [hcons, List.mem_cons] at hpiece
          obtain rfl | hlater := hpiece
          · obtain rfl | hfirst := List.mem_cons.mp hc
            · exact ⟨List.mem_cons_self, hd⟩
            · obtain ⟨hmem, hcut⟩ := ih List.mem_cons_self hfirst
              exact ⟨List.mem_cons_of_mem d hmem, hcut⟩
          · obtain ⟨hmem, hcut⟩ := ih (List.mem_cons_of_mem first hlater) hc
            exact ⟨List.mem_cons_of_mem d hmem, hcut⟩

/-- The lines, each with a line feed after it, are the text with a line feed after it. -/
theorem flatMap_lines (s : List Char) : (lines s).flatMap (· ++ ['\n']) = s ++ ['\n'] := by
  rw [lines]
  induction s with
  | nil => rfl
  | cons c rest ih =>
      cases hc : c == '\n' with
      | true =>
          have hline : c = '\n' := by simpa using hc
          rw [pieces_of_cut (· == '\n') hc, List.flatMap_cons, ih, hline]
          rfl
      | false =>
          obtain ⟨first, others, hrest, hcons⟩ := pieces_of_not_cut (· == '\n') hc rest
          rw [hrest, List.flatMap_cons] at ih
          rw [hcons, List.flatMap_cons, List.cons_append, List.cons_append, ih]
          rfl

/-- A text that ends with a line feed is the text before it and the line feed. -/
theorem takeText_of_endsWith {s : String} (hs : endsWith s "\n" = true) :
    takeText s (s.length - 1) ++ "\n" = s := by
  have hprefix : ['\n'] <+: s.toList.reverse := List.isPrefixOf_iff_prefix.mp hs
  obtain ⟨rest, hrest⟩ := hprefix
  have hlist : s.toList = rest.reverse ++ ['\n'] := by
    rw [← List.reverse_reverse s.toList, ← hrest, List.reverse_append]
    rfl
  apply String.toList_inj.mp
  have hlength : s.length = rest.length + 1 := by
    rw [← String.length_toList, hlist]
    simp
  rw [String.toList_append, takeText, String.toList_ofList, hlist, hlength, Nat.add_sub_cancel,
    List.take_left' List.length_reverse]
  rfl

end Parley.Text
