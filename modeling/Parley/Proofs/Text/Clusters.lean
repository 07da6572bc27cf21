import Parley.Proofs.Text.Measure

/-!
# Groups of characters

The groups of a text make up its width, unless a joiner comes before all of them.  A group is
one visible character with what belongs to it, so it takes two cells at most: a selector
widens only characters of one cell, and each of them once.
-/

namespace Parley.Text

/-- The cells of some groups. -/
def groupCells (groups : List Cluster) : Nat :=
  sumOf (groups.map Cluster.cells)

theorem groupCells_append (first second : List Cluster) :
    groupCells (first ++ second) = groupCells first + groupCells second := by
  rw [groupCells, List.map_append, sumOf_append]
  rfl

theorem groupCells_singleton (group : Cluster) : groupCells [group] = group.cells :=
  Nat.add_zero _

theorem groupCells_reverse (groups : List Cluster) :
    groupCells groups.reverse = groupCells groups := by
  induction groups with
  | nil => rfl
  | cons group rest ih =>
      rw [List.reverse_cons, groupCells_append, ih, groupCells_singleton, Nat.add_comm]
      rfl

theorem groupCells_extendCluster (chars : List Char) (cells : Nat) (found : List Cluster) :
    groupCells (extendCluster chars cells found) = groupCells found + cells := by
  cases found with
  | nil => exact Nat.add_comm cells 0
  | cons group rest =>
      simp only [extendCluster, groupCells, List.map_cons, sumOf]
      omega

theorem extendCluster_ne_nil (chars : List Char) (cells : Nat) (found : List Cluster) :
    extendCluster chars cells found ≠ [] := by
  cases found with
  | nil => exact List.cons_ne_nil _ _
  | cons group rest => exact List.cons_ne_nil _ _

/-! ## The width of a text -/

/-- The characters of groups that are found so far, the last one first. -/
def foundChars (found : List Cluster) : List Char :=
  found.reverse.flatMap Cluster.chars

theorem foundChars_cons (group : Cluster) (found : List Cluster) :
    foundChars (group :: found) = foundChars found ++ group.chars := by
  simp [foundChars]

theorem foundChars_extendCluster (chars : List Char) (cells : Nat) (found : List Cluster) :
    foundChars (extendCluster chars cells found) = foundChars found ++ chars := by
  cases found with
  | nil => exact List.append_nil chars
  | cons group rest =>
      rw [extendCluster, foundChars_cons, foundChars_cons, List.append_assoc]

theorem foundChars_clustersAfter (last : Option Char) (found : List Cluster) (s : List Char) :
    foundChars (clustersAfter last found s) = foundChars found ++ s := by
  fun_induction clustersAfter last found s with
  | case1 => exact (List.append_nil _).symm
  | case2 last found rest hempty ih =>
      rw [List.isEmpty_iff] at hempty
      rw [ih, hempty]
      rfl
  | case3 => exact foundChars_extendCluster _ _ _
  | case4 last found _ d others ih =>
      rw [ih, foundChars_extendCluster, List.append_assoc]
      rfl
  | case5 last found rest hempty _ ih =>
      rw [List.isEmpty_iff] at hempty
      rw [ih, hempty]
      rfl
  | case6 last found rest _ _ _ ih => rw [ih, foundChars_extendCluster, List.append_assoc]; rfl
  | case7 last found rest _ _ _ ih => rw [ih, foundChars_extendCluster, List.append_assoc]; rfl
  | case8 last found c rest _ _ _ ih => rw [ih, foundChars_extendCluster, List.append_assoc]; rfl
  | case9 last found c rest _ _ _ ih => rw [ih, foundChars_cons, List.append_assoc]; rfl

/-- The groups hold the text, cut into parts. -/
theorem flatMap_chars_clusters (s : List Char) : (clusters s).flatMap Cluster.chars = s :=
  foundChars_clustersAfter none [] s

/-- Groups that can be told apart by their cells: up to any of them the text takes the cells of
the groups, and no joiner waits for the next character. -/
structure Tallied (found : List Cluster) : Prop where
  cells : ∀ front, front <:+ found → cellLen (foundChars front) = groupCells front
  complete : ∀ front, front <:+ found → (Gauge.start.after (foundChars front)).joined = false

theorem tallied_nil : Tallied [] := by
  refine ⟨?_, ?_⟩
  · intro front hfront
    rw [List.suffix_nil.mp hfront]
    rfl
  · intro front hfront
    rw [List.suffix_nil.mp hfront]
    rfl

theorem tallied_cons {group : Cluster} {found : List Cluster} (h : Tallied found)
    (hcells : cellLen (foundChars (group :: found)) = groupCells (group :: found))
    (hcomplete : (Gauge.start.after (foundChars (group :: found))).joined = false) :
    Tallied (group :: found) := by
  refine ⟨?_, ?_⟩
  · intro front hfront
    obtain rfl | hearlier := List.suffix_cons_iff.mp hfront
    · exact hcells
    · exact h.cells front hearlier
  · intro front hfront
    obtain rfl | hearlier := List.suffix_cons_iff.mp hfront
    · exact hcomplete
    · exact h.complete front hearlier

variable {found : List Cluster} {chars : List Char} {cells : Nat}

theorem Tallied.of_suffix {front : List Cluster} (h : Tallied found) (hfront : front <:+ found) :
    Tallied front where
  cells shorter hshorter := h.cells shorter (hshorter.trans hfront)
  complete shorter hshorter := h.complete shorter (hshorter.trans hfront)

section Found

variable (h : Tallied found)
  (hcells : (Gauge.start.after (foundChars found)).measure chars = cells)
  (hcomplete : ((Gauge.start.after (foundChars found)).after chars).joined = false)
include h hcells hcomplete

theorem Tallied.push : Tallied (⟨chars, cells⟩ :: found) := by
  apply tallied_cons h
  · have hfound := h.cells found (List.suffix_refl _)
    rw [foundChars_cons, cellLen_append, hcells, hfound]
    exact Nat.add_comm _ _
  · rw [foundChars_cons, Gauge.after_append]
    exact hcomplete

theorem Tallied.extend : Tallied (extendCluster chars cells found) := by
  cases found with
  | nil => exact h.push hcells hcomplete
  | cons group rest =>
      have hfound := h.cells (group :: rest) (List.suffix_refl _)
      have hchars := foundChars_extendCluster chars cells (group :: rest)
      have hsum := groupCells_extendCluster chars cells (group :: rest)
      rw [extendCluster] at hchars hsum ⊢
      apply tallied_cons (h.of_suffix (List.suffix_cons _ _))
      · rw [hchars, cellLen_append, hcells, hsum, hfound]
      · rw [hchars, Gauge.after_append]
        exact hcomplete

end Found

section FoundChar

variable {c : Char} (h : Tallied found) (hc : c ≠ joiner)
  (hcells : (Gauge.start.after (foundChars found)).cells c = cells)
include h hc hcells

theorem Tallied.push_char : Tallied (⟨[c], cells⟩ :: found) :=
  h.push ((Gauge.measure_singleton _ c).trans hcells) (Gauge.joined_next hc)

theorem Tallied.extend_char : Tallied (extendCluster [c] cells found) :=
  h.extend ((Gauge.measure_singleton _ c).trans hcells) (Gauge.joined_next hc)

end FoundChar

/-- The end of a text that goes on is the end of what follows. -/
theorem getLast?_ne_of_cons {c d : Char} {rest : List Char}
    (hend : (c :: rest).getLast? ≠ some d) : rest.getLast? ≠ some d := by
  cases rest with
  | nil => simp
  | cons next others => rwa [List.getLast?_cons_cons] at hend

/-- A text falls into groups that can be told apart, unless it starts or ends with a joiner.
The grouping may keep a visible character longer than the measurement does, as long as no
selector would widen it. -/
theorem tallied_clustersAfter {last : Option Char} {s : List Char} (h : Tallied found)
    (hlast : last.any isWidened =
      (Gauge.start.after (foundChars found)).last.any isWidened)
    (hhead : found = [] → s.head? ≠ some joiner) (hend : s.getLast? ≠ some joiner) :
    Tallied (clustersAfter last found s) := by
  have hne : emojiSelector ≠ joiner := by decide
  have hkept (chars : List Char) (cells : Nat) {found : List Cluster} {rest : List Char} :
      extendCluster chars cells found = [] → rest.head? ≠ some joiner :=
    fun hnil => absurd hnil (extendCluster_ne_nil _ _ _)
  fun_induction clustersAfter last found s with
  | case1 => exact h
  | case2 last found rest hempty ih => exact absurd rfl (hhead (List.isEmpty_iff.mp hempty))
  | case3 last found => exact absurd rfl hend
  | case4 last found _ d others ih =>
      have hopen := h.complete found (List.suffix_refl _)
      apply ih
      · apply h.extend (Gauge.measure_joiner hopen d)
        rw [Gauge.after_joiner hopen]
        exact hopen
      · rw [foundChars_extendCluster, Gauge.after_append, Gauge.after_joiner hopen]
        exact hlast
      · exact hkept [joiner, d] 0
      · exact getLast?_ne_of_cons (getLast?_ne_of_cons hend)
  | case5 last found rest hempty _ ih =>
      rw [List.isEmpty_iff] at hempty
      subst hempty
      exact ih (h.extend_char hne rfl) hlast (fun hnil => absurd hnil (List.cons_ne_nil _ _))
        (getLast?_ne_of_cons hend)
  | case6 last found rest _ hwidened _ ih =>
      have hopen := h.complete found (List.suffix_refl _)
      apply ih
      · apply h.extend_char hne
        rw [Gauge.cells, hopen, ← hlast, hwidened]
        rfl
      · rw [foundChars_extendCluster, Gauge.after_append]
        exact (congrArg (Option.any isWidened) (Gauge.last_next_selector hopen)).symm
      · exact hkept _ _
      · exact getLast?_ne_of_cons hend
  | case7 last found rest _ hnarrow _ ih =>
      have hopen := h.complete found (List.suffix_refl _)
      rw [Bool.not_eq_true] at hnarrow
      apply ih
      · apply h.extend_char hne
        rw [Gauge.cells, hopen, ← hlast, hnarrow]
        rfl
      · rw [foundChars_extendCluster, Gauge.after_append, hnarrow]
        exact (congrArg (Option.any isWidened) (Gauge.last_next_selector hopen)).symm
      · exact hkept _ _
      · exact getLast?_ne_of_cons hend
  | case8 last found c rest hjoiner hselector hcells ih =>
      have hopen := h.complete found (List.suffix_refl _)
      apply ih
      · apply h.extend_char hjoiner
        rw [Gauge.cells, hopen, if_neg Bool.false_ne_true,
          if_neg hselector, hcells]
      · rw [foundChars_extendCluster, Gauge.after_append]
        rw [Gauge.after_singleton, Gauge.next, hopen, if_neg Bool.false_ne_true, if_neg hjoiner,
          if_neg hselector, if_pos hcells]
        exact hlast
      · exact hkept _ _
      · exact getLast?_ne_of_cons hend
  | case9 last found c rest hjoiner hselector hcells ih =>
      have hopen := h.complete found (List.suffix_refl _)
      apply ih
      · apply h.push_char hjoiner
        rw [Gauge.cells, hopen, if_neg Bool.false_ne_true,
          if_neg hselector]
      · rw [foundChars_cons, Gauge.after_append, Gauge.after_singleton, Gauge.next, hopen,
          if_neg Bool.false_ne_true, if_neg hjoiner, if_neg hselector, if_neg hcells]
      · exact fun hnil => absurd hnil (List.cons_ne_nil _ _)
      · exact getLast?_ne_of_cons hend

section Ends

variable {s : List Char} (hhead : s.head? ≠ some joiner) (hend : s.getLast? ≠ some joiner)
include hhead hend

theorem tallied_clusters : Tallied (clusters s).reverse := by
  rw [clusters, List.reverse_reverse]
  exact tallied_clustersAfter tallied_nil rfl (fun _ => hhead) hend

theorem groupCells_clusters : groupCells (clusters s) = cellLen s := by
  have hcells := (tallied_clusters hhead hend).cells _ (List.suffix_refl _)
  rw [groupCells_reverse, foundChars, List.reverse_reverse, flatMap_chars_clusters] at hcells
  exact hcells.symm

theorem joined_after_of_ends : (Gauge.start.after s).joined = false := by
  have hcomplete := (tallied_clusters hhead hend).complete _ (List.suffix_refl _)
  rwa [foundChars, List.reverse_reverse, flatMap_chars_clusters] at hcomplete

end Ends

theorem groupCells_clusters_of_not_mem {s : List Char} (hs : joiner ∉ s) :
    groupCells (clusters s) = cellLen s :=
  groupCells_clusters (fun hhead => hs (List.mem_of_head? hhead))
    (fun hend => hs (List.mem_of_getLast? hend))

/-! ## The width of a group -/

theorem exists_range_of_inRanges {ranges : List (Nat × Nat)} {n : Nat}
    (hn : inRanges ranges n = true) : ∃ range ∈ ranges, range.1 ≤ n ∧ n ≤ range.2 := by
  induction ranges with
  | nil => exact absurd hn Bool.false_ne_true
  | cons range rest ih =>
      rw [inRanges] at hn
      split at hn
      case isTrue => exact absurd hn Bool.false_ne_true
      case isFalse hlow =>
          rw [Bool.or_eq_true, decide_eq_true_eq] at hn
          obtain hhigh | hlater := hn
          · exact ⟨range, List.mem_cons_self, Nat.not_lt.mp hlow, hhigh⟩
          · obtain ⟨found, hfound, hbounds⟩ := ih hlater
            exact ⟨found, List.mem_cons_of_mem _ hfound, hbounds⟩

theorem inRanges_wideRanges_of_widened :
    ∀ range ∈ widenedRanges, ∀ n ∈ List.range' range.1 (range.2 + 1 - range.1),
      inRanges wideRanges n = false := by
  decide +kernel

/-- A selector widens characters of one cell only. -/
theorem charCells_le_one_of_isWidened {c : Char} (hc : isWidened c = true) :
    charCells c ≤ 1 := by
  obtain ⟨range, hrange, hlow, hhigh⟩ := exists_range_of_inRanges hc
  have hnarrow : inRanges wideRanges c.toNat = false := by
    apply inRanges_wideRanges_of_widened range hrange
    rw [List.mem_range'_1]
    omega
  simp only [charCells, hnarrow, Bool.false_eq_true, if_false]
  repeat' split
  all_goals omega

/-- Whether a selector that comes next would widen the group found last. -/
def IsLast (last : Option Char) (found : List Cluster) : Prop :=
  ∀ c, last = some c → ∃ group rest, found = group :: rest ∧ group.cells = charCells c

theorem IsLast.extend {last : Option Char} {found : List Cluster} (h : IsLast last found)
    (chars : List Char) : IsLast last (extendCluster chars 0 found) := by
  intro c hc
  obtain ⟨group, rest, rfl, hcells⟩ := h c hc
  exact ⟨_, rest, rfl, hcells⟩

theorem isLast_none (found : List Cluster) : IsLast none found := by
  intro c hc
  cases hc

theorem forall_mem_extendCluster {bound cells : Nat} (chars : List Char) {found : List Cluster}
    (hfound : ∀ group ∈ found, group.cells ≤ bound)
    (hhead : ∀ group ∈ found.head?, group.cells + cells ≤ bound) (hcells : cells ≤ bound) :
    ∀ group ∈ extendCluster chars cells found, group.cells ≤ bound := by
  cases found with
  | nil => simpa [extendCluster] using hcells
  | cons first rest =>
      obtain ⟨-, hrest⟩ := List.forall_mem_cons.mp hfound
      exact List.forall_mem_cons.mpr ⟨hhead first rfl, hrest⟩

theorem forall_mem_extendCluster_zero {bound : Nat} (chars : List Char) {found : List Cluster}
    (hfound : ∀ group ∈ found, group.cells ≤ bound) :
    ∀ group ∈ extendCluster chars 0 found, group.cells ≤ bound := by
  apply forall_mem_extendCluster chars hfound _ (Nat.zero_le bound)
  intro group hgroup
  exact hfound group (List.mem_of_mem_head? hgroup)

/-- Whether the characters of a text, widened or not, take no more than so many cells. -/
structure AtMost (bound : Nat) (s : List Char) : Prop where
  cells : ∀ c ∈ s, charCells c ≤ bound
  widened : emojiSelector ∈ s → 2 ≤ bound

theorem AtMost.tail {bound : Nat} {c : Char} {rest : List Char} (h : AtMost bound (c :: rest)) :
    AtMost bound rest where
  cells d hd := h.cells d (List.mem_cons_of_mem c hd)
  widened hmem := h.widened (List.mem_cons_of_mem c hmem)

theorem atMost_two (s : List Char) : AtMost 2 s :=
  ⟨fun c _ => charCells_le_two c, fun _ => Nat.le_refl 2⟩

theorem cells_le_of_mem_clustersAfter {bound : Nat} {last : Option Char} {found : List Cluster}
    {s : List Char} (hs : AtMost bound s) (hlast : IsLast last found)
    (hfound : ∀ group ∈ found, group.cells ≤ bound) :
    ∀ group ∈ clustersAfter last found s, group.cells ≤ bound := by
  fun_induction clustersAfter last found s with
  | case1 => exact hfound
  | case2 last found rest hempty ih =>
      rw [List.isEmpty_iff] at hempty
      subst hempty
      exact ih hs.tail (hlast.extend [joiner])
        (forall_mem_extendCluster_zero [joiner] hfound)
  | case3 last found => exact forall_mem_extendCluster_zero _ hfound
  | case4 last found _ c rest ih =>
      exact ih hs.tail.tail (hlast.extend _) (forall_mem_extendCluster_zero _ hfound)
  | case5 last found rest hempty _ ih =>
      rw [List.isEmpty_iff] at hempty
      subst hempty
      exact ih hs.tail (hlast.extend [emojiSelector])
        (forall_mem_extendCluster_zero [emojiSelector] hfound)
  | case6 last found rest _ hwidened _ ih =>
      -- the group found last is a character of one cell
      have htwo : 2 ≤ bound := hs.widened List.mem_cons_self
      refine ih hs.tail (isLast_none _) (forall_mem_extendCluster _ hfound ?_ (by omega))
      obtain ⟨c, hc, hwide⟩ := (Option.any_eq_true _ _).mp hwidened
      obtain ⟨group, others, rfl, hcells⟩ := hlast c hc
      have hone := charCells_le_one_of_isWidened hwide
      intro first hfirst
      cases hfirst
      omega
  | case7 last found rest _ _ _ ih =>
      exact ih hs.tail (hlast.extend _) (forall_mem_extendCluster_zero _ hfound)
  | case8 last found c rest _ _ _ ih =>
      exact ih hs.tail (hlast.extend _) (forall_mem_extendCluster_zero _ hfound)
  | case9 last found c rest _ _ _ ih =>
      refine ih hs.tail ?_ (List.forall_mem_cons.mpr ⟨hs.cells c List.mem_cons_self, hfound⟩)
      intro d hd
      cases hd
      exact ⟨_, found, rfl, rfl⟩

theorem cells_le_of_mem_clusters {bound : Nat} {s : List Char} (hs : AtMost bound s) :
    ∀ group ∈ clusters s, group.cells ≤ bound := by
  intro group hgroup
  refine cells_le_of_mem_clustersAfter hs (isLast_none []) ?_ group (List.mem_reverse.mp hgroup)
  exact fun _ hmem => absurd hmem List.not_mem_nil

end Parley.Text
