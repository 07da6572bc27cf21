import Parley.Text.Printable
import Parley.Proofs.Text.Clusters

/-!
# Text laid out in rows

A text that is written fills the cells of its rows from left to right.  A tab goes on to the
next stop, counted in cells from the start of the line, and a character of two cells that
finds one free cell goes to the next row as a whole.  So the rows of a line are its cells over
the width, rounded up, once the cells that stay free at the ends of rows are counted too.

Counting rows leaves these cells out, and goes from tab to tab by characters.  Where tabs come
out the same the count is never too high, nor too low for rows that are one cell shorter, and
it is right exactly if the free cells fit in the last row that it has.
-/

namespace Parley.Text

/-! ## The layout -/

/-- Replaces the tabs of a line by spaces up to the next stop, counted in the cells of what
comes before, which has no tabs any more. -/
def spreadTabsAfter (before : List Char) : List Char → List Char
  | [] => before
  | c :: rest =>
      if c = '\t' then
        let gap := tabSize - cellLen before % tabSize
        spreadTabsAfter (before ++ List.replicate gap ' ') rest
      else spreadTabsAfter (before ++ [c]) rest

def spreadTabs (line : List Char) : List Char :=
  spreadTabsAfter [] line

/-- Fills rows with groups, given the row under construction.  A group is a visible character
with the marks and selectors that belong to it; if it finds too few free cells it begins the
next row. -/
def layOutAfter (width : Nat) (row : List Cluster) : List Cluster → List (List Cluster)
  | [] => [row]
  | group :: others =>
      if width < groupCells row + group.cells then row :: layOutAfter width [group] others
      else layOutAfter width (row ++ [group]) others

/-- The rows of a line. -/
def layOut (width : Nat) (line : List Char) : List (List Cluster) :=
  layOutAfter width [] (clusters (spreadTabs line))

/-- The number of rows that a text takes.  Each of its lines begins a row. -/
def laidOutRows (s : String) (width : Int) : Nat :=
  sumOf ((lines s.toList).map fun line => (layOut (lineWidth width) line).length)

/-- The cells that stay free at the ends of rows, but for the last. -/
def freeCells (width : Nat) (rows : List (List Cluster)) : Nat :=
  sumOf (rows.dropLast.map fun row => width - groupCells row)

/-- The rows that so many cells need, and at least one. -/
def rowsFor (width cells : Nat) : Nat :=
  max 1 ((cells + width - 1) / width)

/-- A character of plain text: a visible one, a tab or a line feed. -/
def IsTyped (c : Char) : Prop :=
  isPrintable c = true ∨ c = '\t' ∨ c = '\n'

instance : DecidablePred IsTyped :=
  fun _ => inferInstanceAs (Decidable (_ ∨ _ ∨ _))

/-- Decided over the text and not over all characters. -/
instance decidableTyped (s : List Char) : Decidable (∀ c ∈ s, IsTyped c) :=
  List.decidableBAll IsTyped s

variable {width most : Nat}

/-! ## Tabs -/

theorem mem_spreadTabsAfter {before line : List Char} {c : Char}
    (hc : c ∈ spreadTabsAfter before line) : c ∈ before ∨ c = ' ' ∨ c ∈ line := by
  induction line generalizing before with
  | nil => exact Or.inl hc
  | cons d rest ih =>
      rw [spreadTabsAfter] at hc
      split at hc
      · obtain hfront | hspace | hrest := ih hc
        · obtain hbefore | hgap := List.mem_append.mp hfront
          · exact Or.inl hbefore
          · exact Or.inr (Or.inl (List.eq_of_mem_replicate hgap))
        · exact Or.inr (Or.inl hspace)
        · exact Or.inr (Or.inr (List.mem_cons_of_mem d hrest))
      · obtain hfront | hspace | hrest := ih hc
        · obtain hbefore | hd := List.mem_append.mp hfront
          · exact Or.inl hbefore
          · exact Or.inr (Or.inr (List.mem_singleton.mp hd ▸ List.mem_cons_self))
        · exact Or.inr (Or.inl hspace)
        · exact Or.inr (Or.inr (List.mem_cons_of_mem d hrest))

theorem mem_spreadTabs {line : List Char} {c : Char} (hc : c ∈ spreadTabs line) :
    c = ' ' ∨ c ∈ line := by
  obtain hnil | hline := mem_spreadTabsAfter hc
  · exact absurd hnil List.not_mem_nil
  · exact hline

theorem isNarrow_space : IsNarrow ' ' := rfl

/-- Characters of one cell are counted as their cells are. -/
theorem append_expandTabsAfter {before line : List Char}
    (hbefore : ∀ c ∈ before, IsNarrow c) (hline : ∀ c ∈ line, c = '\t' ∨ IsNarrow c) :
    before ++ expandTabsAfter before.length line = spreadTabsAfter before line := by
  induction line generalizing before with
  | nil => exact List.append_nil before
  | cons c rest ih =>
      obtain ⟨hc, hrest⟩ := List.forall_mem_cons.mp hline
      have hcells : cellLen before = before.length := cellLenAfter_of_narrow hbefore none
      rw [expandTabsAfter, spreadTabsAfter, hcells]
      by_cases htab : c = '\t'
      · rw [if_pos htab, if_pos htab, ← ih _ hrest, List.length_append, List.length_replicate,
          List.append_assoc]
        intro d hd
        obtain hold | hgap := List.mem_append.mp hd
        · exact hbefore d hold
        · exact List.eq_of_mem_replicate hgap ▸ isNarrow_space
      · have hnarrow := hc.resolve_left htab
        have hends : (c = '\n' || c = '\r') = false := by
          rw [decide_eq_false (hnarrow.ne (by decide)), decide_eq_false (hnarrow.ne (by decide))]
          rfl
        rw [if_neg htab, if_neg htab, hends, if_neg Bool.false_ne_true, ← ih _ hrest,
          List.length_append, List.append_assoc]
        · rfl
        · intro d hd
          obtain hold | hnew := List.mem_append.mp hd
          · exact hbefore d hold
          · exact List.mem_singleton.mp hnew ▸ hnarrow

theorem expandTabs_eq_spreadTabs {line : List Char} (hline : ∀ c ∈ line, c = '\t' ∨ IsNarrow c) :
    expandTabs line = spreadTabs line :=
  append_expandTabsAfter (fun _ hc => absurd hc List.not_mem_nil) hline

/-! ## Filled rows -/

/-- Rows that were filled one after the other: the ones in front have no room for as many
cells as a group may take. -/
structure Stacked (width most : Nat) (front : List (List Cluster)) (last : List Cluster) :
    Prop where
  front_le : ∀ row ∈ front, groupCells row ≤ width
  full : ∀ row ∈ front, width < groupCells row + most
  last_le : groupCells last ≤ width
  last_pos : front ≠ [] → 0 < groupCells last

theorem exists_stacked (hmost : most ≤ width) {row groups : List Cluster}
    (hrow : groupCells row ≤ width) (hgroups : ∀ group ∈ groups, group.cells ≤ most) :
    ∃ front last, layOutAfter width row groups = front ++ [last] ∧
      Stacked width most front last ∧ (0 < groupCells row → 0 < groupCells last) ∧
      groupCells front.flatten + groupCells last = groupCells row + groupCells groups := by
  induction groups generalizing row with
  | nil =>
      refine ⟨[], row, rfl, ⟨?_, ?_, hrow, ?_⟩, id, Nat.add_comm 0 _⟩
      · exact fun _ hmem => absurd hmem List.not_mem_nil
      · exact fun _ hmem => absurd hmem List.not_mem_nil
      · exact fun hne => absurd rfl hne
  | cons group others ih =>
      obtain ⟨hgroup, hothers⟩ := List.forall_mem_cons.mp hgroups
      have hcons : groupCells (group :: others) = group.cells + groupCells others := rfl
      have hsingle := groupCells_singleton group
      rw [layOutAfter]
      by_cases hwide : width < groupCells row + group.cells
      · have hfits : groupCells [group] ≤ width := by omega
        obtain ⟨front, last, hrows, hstacked, hpos, hcells⟩ := ih hfits hothers
        have hlast : 0 < groupCells last := hpos (by omega)
        refine ⟨row :: front, last, by rw [if_pos hwide, hrows, List.cons_append],
          ⟨?_, ?_, hstacked.last_le, fun _ => hlast⟩, fun _ => hlast, ?_⟩
        · exact List.forall_mem_cons.mpr ⟨hrow, hstacked.front_le⟩
        · exact List.forall_mem_cons.mpr ⟨by omega, hstacked.full⟩
        · rw [List.flatten_cons, groupCells_append]
          omega
      · have hlonger : groupCells (row ++ [group]) = groupCells row + group.cells := by
          rw [groupCells_append, hsingle]
        have hfits : groupCells (row ++ [group]) ≤ width := by omega
        obtain ⟨front, last, hrows, hstacked, hpos, hcells⟩ := ih hfits hothers
        exact ⟨front, last, by rw [if_neg hwide, hrows], hstacked, fun _ => hpos (by omega),
          by omega⟩

/-! ## Numbers of rows -/

theorem rowsFor_le_iff (hwidth : 0 < width) {cells n : Nat} :
    rowsFor width cells ≤ n ↔ 0 < n ∧ cells ≤ n * width := by
  rw [rowsFor, Nat.max_le, Nat.div_le_iff_le_mul_add_pred hwidth, Nat.mul_comm width n]
  omega

theorem freeCells_concat (width : Nat) (front : List (List Cluster)) (last : List Cluster) :
    freeCells width (front ++ [last]) = sumOf (front.map fun row => width - groupCells row) := by
  rw [freeCells, List.dropLast_concat]

section Stacked

variable {front : List (List Cluster)} {last : List Cluster}

/-- Used and free cells make up the rows. -/
theorem Stacked.sum_front (h : Stacked width most front last) :
    groupCells front.flatten + sumOf (front.map fun row => width - groupCells row) =
      front.length * width := by
  have hle := h.front_le
  clear h
  induction front with
  | nil => exact (Nat.zero_mul width).symm
  | cons row rest ih =>
      obtain ⟨hrow, hrest⟩ := List.forall_mem_cons.mp hle
      have hsum := ih hrest
      rw [List.flatten_cons, groupCells_append, List.map_cons, sumOf, List.length_cons,
        Nat.succ_mul]
      omega

/-- The rows in front are full but for less than the cells of a group. -/
theorem Stacked.le_front (h : Stacked width most front last) :
    front.length * (width + 1 - most) ≤ groupCells front.flatten := by
  have hfull := h.full
  clear h
  induction front with
  | nil => exact Nat.le_of_eq (Nat.zero_mul _)
  | cons row rest ih =>
      obtain ⟨hrow, hrest⟩ := List.forall_mem_cons.mp hfull
      have hsum := ih hrest
      rw [List.flatten_cons, groupCells_append, List.length_cons, Nat.succ_mul]
      omega

theorem Stacked.pos (h : Stacked width most front last) (hfront : 0 < front.length) :
    0 < groupCells last :=
  h.last_pos (List.ne_nil_of_length_pos hfront)

theorem Stacked.rowsFor_eq (h : Stacked width most front last) (hwidth : 0 < width) :
    rowsFor width (groupCells front.flatten + groupCells last +
      freeCells width (front ++ [last])) = (front ++ [last]).length := by
  have hsum := h.sum_front
  have hlast := h.last_le
  have hpos := h.pos
  rw [freeCells_concat, List.length_append, List.length_singleton]
  apply Nat.le_antisymm
  · rw [rowsFor_le_iff hwidth, Nat.succ_mul]
    omega
  · apply Nat.lt_of_not_le
    rw [rowsFor_le_iff hwidth]
    omega

/-- Groups of one cell fill the rows. -/
theorem Stacked.freeCells_eq_zero (h : Stacked width 1 front last) :
    freeCells width (front ++ [last]) = 0 := by
  have hsum := h.sum_front
  have hfull := h.le_front
  rw [Nat.add_sub_cancel] at hfull
  rw [freeCells_concat]
  omega

/-- On rows that are one cell shorter the cells need as many rows at least. -/
theorem Stacked.length_le (h : Stacked width 2 front last) (hwidth : 2 ≤ width) :
    (front ++ [last]).length ≤
      rowsFor (width - 1) (groupCells front.flatten + groupCells last) := by
  have hfull := h.le_front
  have hpos := h.pos
  have hshorter : width + 1 - 2 = width - 1 := by omega
  rw [hshorter] at hfull
  rw [List.length_append, List.length_singleton]
  apply Nat.lt_of_not_le
  rw [rowsFor_le_iff (by omega)]
  omega

end Stacked

/-! ## Lines -/

section Line

variable {line : List Char} (hline : joiner ∉ line)
include hline

theorem groupCells_clusters_spreadTabs :
    groupCells (clusters (spreadTabs line)) = cellLen (spreadTabs line) := by
  apply groupCells_clusters_of_not_mem
  intro hmem
  obtain hspace | hmem := mem_spreadTabs hmem
  · exact absurd hspace (by decide)
  · exact hline hmem

theorem exists_stacked_layOut (hmost : AtMost most (spreadTabs line)) (hwidth : most ≤ width) :
    ∃ front last, layOut width line = front ++ [last] ∧ Stacked width most front last ∧
      groupCells front.flatten + groupCells last = cellLen (spreadTabs line) := by
  have hnil : groupCells [] = 0 := rfl
  have hempty : groupCells [] ≤ width := Nat.zero_le width
  obtain ⟨front, last, hrows, hstacked, -, hcells⟩ :=
    exists_stacked hwidth hempty (cells_le_of_mem_clusters hmost)
  rw [groupCells_clusters_spreadTabs hline, hnil, Nat.zero_add] at hcells
  exact ⟨front, last, hrows, hstacked, hcells⟩

/-- The rows of a line are its cells and those that stay free over the width, rounded up. -/
theorem length_layOut (hwidth : 2 ≤ width) :
    (layOut width line).length =
      rowsFor width (cellLen (spreadTabs line) + freeCells width (layOut width line)) := by
  obtain ⟨front, last, hrows, hstacked, hcells⟩ :=
    exists_stacked_layOut hline (atMost_two _) hwidth
  rw [hrows, ← hcells, hstacked.rowsFor_eq (by omega)]

theorem length_layOut_le (hwidth : 2 ≤ width) :
    (layOut width line).length ≤ rowsFor (width - 1) (cellLen (spreadTabs line)) := by
  obtain ⟨front, last, hrows, hstacked, hcells⟩ :=
    exists_stacked_layOut hline (atMost_two _) hwidth
  rw [hrows, ← hcells]
  exact hstacked.length_le hwidth

variable (htabs : expandTabs line = spreadTabs line)
include htabs

omit hline in
theorem lineRows_eq_rowsFor : lineRows width line = rowsFor width (cellLen (spreadTabs line)) := by
  rw [← htabs]
  rfl

theorem lineRows_le_length_layOut (hwidth : 2 ≤ width) :
    lineRows width line ≤ (layOut width line).length := by
  have hrows := Nat.le_of_eq (length_layOut hline hwidth).symm
  rw [rowsFor_le_iff (by omega)] at hrows
  rw [lineRows_eq_rowsFor htabs, rowsFor_le_iff (by omega)]
  omega

theorem lineRows_eq_length_layOut_iff (hwidth : 2 ≤ width) :
    lineRows width line = (layOut width line).length ↔
      cellLen (spreadTabs line) + freeCells width (layOut width line) ≤
        lineRows width line * width := by
  have hle := lineRows_le_length_layOut hline htabs hwidth
  have hpos : 0 < lineRows width line := Nat.le_max_left _ _
  rw [Nat.le_antisymm_iff, and_iff_right hle, length_layOut hline hwidth, rowsFor_le_iff (by omega),
    and_iff_right hpos]

end Line

/-- Characters of one cell leave no cell free. -/
theorem lineRows_eq_length_layOut (hwidth : 2 ≤ width) {line : List Char}
    (hline : ∀ c ∈ line, c = '\t' ∨ IsNarrow c) :
    lineRows width line = (layOut width line).length := by
  have hnarrow : ∀ c ∈ spreadTabs line, c = '\t' ∨ IsNarrow c := by
    intro c hc
    obtain hspace | hmem := mem_spreadTabs hc
    · exact Or.inr (hspace ▸ isNarrow_space)
    · exact hline c hmem
  have hjoiner : joiner ∉ line := by
    intro hmem
    obtain htab | hnarrow := hline joiner hmem
    · exact absurd htab (by decide)
    · exact hnarrow.ne charCells_joiner rfl
  have htabs := expandTabs_eq_spreadTabs hline
  have hmost : AtMost 1 (spreadTabs line) := by
    refine ⟨fun c hc => ?_, fun hmem => ?_⟩
    · obtain rfl | hone := hnarrow c hc
      · exact Nat.zero_le 1
      · exact Nat.le_of_eq hone
    · obtain htab | hone := hnarrow emojiSelector hmem
      · exact absurd htab (by decide)
      · exact absurd rfl (hone.ne charCells_emojiSelector)
  have hone : 1 ≤ width := Nat.le_of_succ_le hwidth
  obtain ⟨front, last, hrows, hstacked, -⟩ := exists_stacked_layOut hjoiner hmost hone
  rw [lineRows_eq_length_layOut_iff hjoiner htabs hwidth, hrows, hstacked.freeCells_eq_zero,
    Nat.add_zero, lineRows_eq_rowsFor htabs]
  exact ((rowsFor_le_iff (by omega)).mp (Nat.le_refl _)).2

/-! ## Texts -/

theorem sumOf_map_le {α : Type} {f g : α → Nat} {items : List α}
    (hle : ∀ a ∈ items, f a ≤ g a) : sumOf (items.map f) ≤ sumOf (items.map g) := by
  induction items with
  | nil => exact Nat.le_refl 0
  | cons a rest ih =>
      obtain ⟨ha, hrest⟩ := List.forall_mem_cons.mp hle
      exact Nat.add_le_add ha (ih hrest)

theorem sumOf_map_eq_iff {α : Type} {f g : α → Nat} {items : List α}
    (hle : ∀ a ∈ items, f a ≤ g a) :
    sumOf (items.map f) = sumOf (items.map g) ↔ ∀ a ∈ items, f a = g a := by
  induction items with
  | nil => simp
  | cons a rest ih =>
      obtain ⟨ha, hrest⟩ := List.forall_mem_cons.mp hle
      have hsum := sumOf_map_le hrest
      rw [List.forall_mem_cons, ← ih hrest, List.map_cons, List.map_cons, sumOf, sumOf]
      omega

theorem joiner_notMem_of_mem_lines {s line : List Char} (hs : ∀ c ∈ s, IsTyped c)
    (hline : line ∈ lines s) : joiner ∉ line := by
  intro hmem
  have hprintable : isPrintable joiner = false := by decide +kernel
  obtain hprinted | htab | hfeed := hs joiner (mem_of_mem_pieces hline hmem).1
  · exact absurd (hprinted.symm.trans hprintable) (by decide)
  · exact absurd htab (by decide)
  · exact absurd hfeed (by decide)

/-- What counting the rows of a plain text says about its layout.  A line takes the rows of
its cells and of those that stay free.  If tabs come out the same by characters and by cells,
the count is not above the number of rows, nor below it on rows that are one cell shorter,
and it is right exactly if the free cells of each line fit in the rows that are counted.  It
is right for all characters of one cell. -/
theorem displayRows_laidOut {s : String} {width : Int} (hwidth : 2 ≤ width)
    (hs : ∀ c ∈ s.toList, IsTyped c) :
    let columns := lineWidth width
    (∀ line ∈ lines s.toList, (layOut columns line).length =
      rowsFor columns (cellLen (spreadTabs line) + freeCells columns (layOut columns line))) ∧
    ((∀ line ∈ lines s.toList, expandTabs line = spreadTabs line) →
      displayRows s width ≤ laidOutRows s width ∧
      laidOutRows s width ≤ displayRows s (width - 1) ∧
      (displayRows s width = laidOutRows s width ↔ ∀ line ∈ lines s.toList,
        cellLen (spreadTabs line) + freeCells columns (layOut columns line) ≤
          lineRows columns line * columns)) ∧
    ((∀ c ∈ s.toList, c = '\n' ∨ c = '\t' ∨ IsNarrow c) →
      displayRows s width = laidOutRows s width) := by
  intro columns
  have hcolumns : 2 ≤ columns := by
    simp only [columns, lineWidth]
    omega
  have hshorter : lineWidth (width - 1) = columns - 1 := by
    simp only [columns, lineWidth]
    omega
  have hline : ∀ line ∈ lines s.toList, joiner ∉ line :=
    fun _ hline => joiner_notMem_of_mem_lines hs hline
  refine ⟨?_, ?_, ?_⟩
  · exact fun line hmem => length_layOut (hline line hmem) hcolumns
  · intro htabs
    have hle : ∀ line ∈ lines s.toList,
        lineRows columns line ≤ (layOut columns line).length :=
      fun line hmem => lineRows_le_length_layOut (hline line hmem) (htabs line hmem) hcolumns
    refine ⟨sumOf_map_le hle, ?_, ?_⟩
    · rw [displayRows, hshorter]
      apply sumOf_map_le
      intro line hmem
      rw [lineRows_eq_rowsFor (htabs line hmem)]
      exact length_layOut_le (hline line hmem) hcolumns
    · rw [displayRows, laidOutRows, sumOf_map_eq_iff hle]
      exact forall₂_congr fun line hmem =>
        lineRows_eq_length_layOut_iff (hline line hmem) (htabs line hmem) hcolumns
  · intro hnarrow
    refine congrArg sumOf (List.map_congr_left fun line hmem => ?_)
    apply lineRows_eq_length_layOut hcolumns
    intro c hc
    have hsource := mem_of_mem_pieces hmem hc
    exact (hnarrow c hsource.1).resolve_left (by simpa using hsource.2)

/-- Three characters of two cells behind a tab. -/
theorem displayRows_laidOut_straddled :
    2 ≤ (3 : Int) ∧ (∀ c ∈ "a\t世世世\nb".toList, IsTyped c) ∧
      (∀ line ∈ lines "a\t世世世\nb".toList, expandTabs line = spreadTabs line) ∧
      displayRows "a\t世世世\nb" 3 = 6 ∧ displayRows "a\t世世世\nb" 2 = 8 ∧
      6 ≤ laidOutRows "a\t世世世\nb" 3 ∧ laidOutRows "a\t世世世\nb" 3 ≤ 8 := by
  have hwidth : 2 ≤ (3 : Int) := by decide
  have htyped : ∀ c ∈ "a\t世世世\nb".toList, IsTyped c := by decide +kernel
  have htabs : ∀ line ∈ lines "a\t世世世\nb".toList, expandTabs line = spreadTabs line := by
    decide +kernel
  obtain ⟨-, hcounted, -⟩ := displayRows_laidOut hwidth htyped
  obtain ⟨hlow, hhigh, -⟩ := hcounted htabs
  have hthree : displayRows "a\t世世世\nb" 3 = 6 := by decide +kernel
  have htwo : displayRows "a\t世世世\nb" 2 = 8 := by decide +kernel
  exact ⟨hwidth, htyped, htabs, hthree, htwo, hthree ▸ hlow, htwo ▸ hhigh⟩

/-- A character of two cells that does not fit the rest of a row makes the count too low, and
one before a tab makes it too high. -/
theorem displayRows_ne_laidOutRows :
    (∀ c ∈ "世世世".toList, IsTyped c) ∧ displayRows "世世世" 3 = 2 ∧
      laidOutRows "世世世" 3 = 3 ∧
    (∀ c ∈ "世\tx".toList, IsTyped c) ∧ displayRows "世\tx" 9 = 2 ∧
      laidOutRows "世\tx" 9 = 1 := by
  decide +kernel

end Parley.Text
