import Parley.Proofs.Text.Clusters

/-!
# Cropped and padded text

A text that is cut to a width takes exactly that width: whole groups stay as long as they fit,
and a group of two cells that the limit cuts through leaves one cell, which a space takes.
Spaces that fill a text up count in full.  Both need a text that neither starts nor ends with a
joiner, which has no character to swallow or swallows the first space.
-/

namespace Parley.Text

/-! ## Spaces at the end -/

theorem cellLen_spaces (n : Nat) : cellLen (List.replicate n ' ') = n := by
  induction n with
  | zero => rfl
  | succ n ih =>
      rw [cellLen_eq_measure, List.replicate_succ, Gauge.measure_space rfl, ih, Nat.add_comm]

theorem cellLen_append_spaces {s : List Char} (hs : (Gauge.start.after s).joined = false)
    (n : Nat) : cellLen (s ++ List.replicate n ' ') = cellLen s + n := by
  cases n with
  | zero => rw [List.replicate_zero, List.append_nil, Nat.add_zero]
  | succ n =>
      rw [cellLen_append, List.replicate_succ, Gauge.measure_space hs, cellLen_spaces,
        Nat.add_comm 1]

/-! ## Groups that are cut -/

variable {width : Nat} {found groups : List Cluster}

/-- A group that takes cells has characters. -/
theorem Tallied.chars_ne_nil {group : Cluster} (h : Tallied (group :: found))
    (hcells : 0 < group.cells) : group.chars ≠ [] := by
  intro hnil
  have hmore := h.cells (group :: found) (List.suffix_refl _)
  have hless := h.cells found (List.suffix_cons _ _)
  rw [foundChars_cons, hnil, List.append_nil, hless] at hmore
  change groupCells found = group.cells + groupCells found at hmore
  omega

/-- The groups in front are complete, so what is kept of the others counts on its own. -/
theorem cellLen_cropClusters (h : Tallied (groups.reverse ++ found))
    (hnarrow : ∀ group ∈ groups, group.cells ≤ 2) (hwidth : width ≤ groupCells groups) :
    cellLen (foundChars found ++ cropClusters width groups) = groupCells found + width := by
  induction groups generalizing width found with
  | nil =>
      have hzero : width = 0 := Nat.le_zero.mp hwidth
      rw [cropClusters, List.append_nil, h.cells found (List.suffix_refl _), hzero]
      rfl
  | cons group rest ih =>
      rw [List.reverse_cons, List.append_assoc, List.singleton_append] at h
      obtain ⟨hgroup, hrest⟩ := List.forall_mem_cons.mp hnarrow
      have hfound : found <:+ rest.reverse ++ group :: found :=
        (List.suffix_cons _ _).trans (List.suffix_append _ _)
      rw [cropClusters]
      by_cases hzero : width = 0
      · rw [if_pos hzero, List.append_nil, h.cells found hfound, hzero]
        rfl
      · rw [if_neg hzero]
        by_cases hfits : group.cells ≤ width
        · have hsum : groupCells (group :: rest) = group.cells + groupCells rest := rfl
          have hkept : groupCells (group :: found) = group.cells + groupCells found := rfl
          rw [if_pos hfits, ← List.append_assoc, ← foundChars_cons,
            ih h hrest (show width - group.cells ≤ groupCells rest by omega)]
          omega
        · have hone : width = 1 := by omega
          rw [if_neg hfits, ← List.replicate_one,
            cellLen_append_spaces (h.complete found hfound), h.cells found hfound, hone]

/-- The space for half a group takes the place of at least one character. -/
theorem length_cropClusters_le (h : Tallied (groups.reverse ++ found)) (width : Nat) :
    (cropClusters width groups).length ≤ (groups.flatMap Cluster.chars).length := by
  induction groups generalizing width found with
  | nil => exact Nat.le_refl 0
  | cons group rest ih =>
      rw [List.reverse_cons, List.append_assoc, List.singleton_append] at h
      rw [cropClusters, List.flatMap_cons, List.length_append]
      split
      · exact Nat.zero_le _
      · split
        · rw [List.length_append]
          exact Nat.add_le_add_left (ih h _) _
        · have hgroup : Tallied (group :: found) :=
            h.of_suffix (List.suffix_append _ _)
          have hchars := List.length_pos_iff.mpr (hgroup.chars_ne_nil (by omega))
          exact Nat.le_add_right_of_le hchars

/-! ## Texts that are cut or filled up -/

section Fit

variable {s : List Char} (hhead : s.head? ≠ some joiner) (hend : s.getLast? ≠ some joiner)
include hhead hend

theorem cellLen_fitCells (width : Nat) : cellLen (fitCells width s) = width := by
  rw [fitCells]
  split
  case isTrue hfits =>
      rw [cellLen_append_spaces (joined_after_of_ends hhead hend)]
      exact Nat.add_sub_cancel' hfits
  case isFalse hwide =>
      have htallied : Tallied ((clusters s).reverse ++ []) := by
        rw [List.append_nil]
        exact tallied_clusters hhead hend
      have hwidth : width ≤ groupCells (clusters s) := by
        rw [groupCells_clusters hhead hend]
        exact Nat.le_of_not_le hwide
      have hcut := cellLen_cropClusters htallied (cells_le_of_mem_clusters (atMost_two s)) hwidth
      exact hcut.trans (Nat.zero_add width)

theorem length_fitCells_le {width : Nat} (hwide : width ≤ cellLen s) :
    (fitCells width s).length ≤ s.length := by
  rw [fitCells]
  split
  case isTrue hfits =>
      have hsame : s ++ List.replicate (width - cellLen s) ' ' = s := by
        rw [Nat.sub_eq_zero_of_le hwide, List.replicate_zero, List.append_nil]
      exact Nat.le_of_eq (congrArg List.length hsame)
  case isFalse =>
      have htallied : Tallied ((clusters s).reverse ++ []) := by
        rw [List.append_nil]
        exact tallied_clusters hhead hend
      have hcut := length_cropClusters_le htallied width
      rwa [flatMap_chars_clusters] at hcut

end Fit

end Parley.Text
