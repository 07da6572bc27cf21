import Parley.Proofs.Text.Cropping
import Parley.Proofs.Text.Trimming

/-!
# Chopped text

The pieces of a word that is too wide take no more than the width, which has to be that of the
widest group at least, and together they are the word.  A text that is cropped only because of
the spaces at its end keeps everything before them.  Joiners are left out throughout.
-/

namespace Parley.Text

variable {width : Nat} {found now groups : List Cluster}

/-! ## Pieces -/

theorem foundChars_append (now found : List Cluster) :
    foundChars (now ++ found) = foundChars found ++ foundChars now := by
  simp [foundChars]

/-- Groups in the middle of a text take no more than their cells, since nothing before them
comes to widen them. -/
theorem Tallied.cellLen_le (h : Tallied (now ++ found)) :
    cellLen (foundChars now) ≤ groupCells now := by
  have hwhole := h.cells (now ++ found) (List.suffix_refl _)
  have hbefore := h.cells found (List.suffix_append _ _)
  have hopen := h.complete found (List.suffix_append _ _)
  rw [foundChars_append, cellLen_append, hbefore, groupCells_append] at hwhole
  have hafter : Gauge.start.after (foundChars found) =
      ⟨(Gauge.start.after (foundChars found)).last, false⟩ := by
    rw [← hopen]
  have hlast := (Gauge.measure_last (Gauge.start.after (foundChars found)).last false
    (foundChars now)).1
  rw [← hafter] at hlast
  rw [cellLen_eq_measure, Gauge.start]
  omega

theorem cellLen_le_of_mem_chopClusters (h : Tallied (groups.reverse ++ (now ++ found)))
    (hgroups : ∀ group ∈ groups, group.cells ≤ width) (hnow : groupCells now ≤ width) :
    ∀ piece ∈ chopClusters width (foundChars now) (groupCells now) groups,
      cellLen piece ≤ width := by
  induction groups generalizing now found with
  | nil =>
      have hall : Tallied (now ++ found) := h
      have hfits : cellLen (foundChars now) ≤ width := Nat.le_trans hall.cellLen_le hnow
      rw [chopClusters]
      split
      · exact fun _ hmem => absurd hmem List.not_mem_nil
      · exact List.forall_mem_singleton.mpr hfits
  | cons group rest ih =>
      obtain ⟨hgroup, hrest⟩ := List.forall_mem_cons.mp hgroups
      rw [List.reverse_cons, List.append_assoc, List.singleton_append] at h
      rw [chopClusters]
      split
      case isTrue =>
          have hfits : cellLen (foundChars now) ≤ width :=
            Nat.le_trans (h.of_suffix ((List.suffix_cons _ _).trans
              (List.suffix_append _ _))).cellLen_le hnow
          have hnext : Tallied (rest.reverse ++ ([group] ++ (now ++ found))) := h
          have hpieces := ih hnext hrest hgroup
          rw [foundChars_cons, groupCells_singleton] at hpieces
          exact List.forall_mem_cons.mpr ⟨hfits, hpieces⟩
      case isFalse hmore =>
          have hcells : groupCells (group :: now) = groupCells now + group.cells :=
            Nat.add_comm _ _
          have hnext : Tallied (rest.reverse ++ (group :: now ++ found)) := h
          have hpieces := ih hnext hrest (by omega)
          rwa [foundChars_cons, hcells] at hpieces

/-- Nothing is left out of a word that takes cells. -/
theorem flatten_chopClusters {used : Nat} (hused : used ≤ width)
    (hgroups : ∀ group ∈ groups, group.cells ≤ width) (hcells : 0 < used + groupCells groups)
    (line : List Char) :
    (chopClusters width line used groups).flatten = line ++ groups.flatMap Cluster.chars := by
  induction groups generalizing line used with
  | nil =>
      have hmore : used ≠ 0 := Nat.ne_of_gt hcells
      rw [chopClusters, if_neg hmore, List.flatten_singleton, List.flatMap_nil, List.append_nil]
  | cons group rest ih =>
      obtain ⟨hgroup, hrest⟩ := List.forall_mem_cons.mp hgroups
      have hsum : groupCells (group :: rest) = group.cells + groupCells rest := rfl
      rw [chopClusters, List.flatMap_cons]
      split
      case isTrue => rw [List.flatten_cons, ih hgroup hrest (by omega)]
      case isFalse hmore => rw [ih (by omega) hrest (by omega), List.append_assoc]

theorem tallied_of_not_mem {word : List Char} (hword : joiner ∉ word) :
    Tallied (clusters word).reverse :=
  tallied_clusters (fun hhead => hword (List.mem_of_head? hhead))
    (fun hend => hword (List.mem_of_getLast? hend))

theorem cells_le_width (hwidth : 2 ≤ width) (word : List Char) :
    ∀ group ∈ clusters word, group.cells ≤ width :=
  fun group hgroup =>
    Nat.le_trans (cells_le_of_mem_clusters (atMost_two word) group hgroup) hwidth

section Word

variable {word : List Char} (hwidth : 2 ≤ width) (hword : joiner ∉ word)
include hwidth hword

theorem cellLen_le_of_mem_chop : ∀ piece ∈ chop width word, cellLen piece ≤ width := by
  have htallied : Tallied ((clusters word).reverse ++ ([] ++ [])) := by
    rw [List.append_nil, List.append_nil]
    exact tallied_of_not_mem hword
  exact cellLen_le_of_mem_chopClusters htallied (cells_le_width hwidth word) (Nat.zero_le _)

theorem flatten_chop (hcells : 0 < cellLen word) : (chop width word).flatten = word := by
  rw [← groupCells_clusters_of_not_mem hword] at hcells
  rw [chop, flatten_chopClusters (Nat.zero_le _) (cells_le_width hwidth word) (by omega),
    flatMap_chars_clusters]
  rfl

end Word

/-! ## Spaces at the end -/

/-- A character that is no joiner is read without the one after it. -/
theorem clustersAfter_cons {c : Char} (hc : c ≠ joiner) (last : Option Char)
    (found : List Cluster) :
    ∃ before next, ∀ rest, clustersAfter last found (c :: rest) = clustersAfter before next rest := by
  simp only [clustersAfter.eq_def last found (_ :: _), if_neg hc]
  split
  · split
    · exact ⟨_, _, fun _ => rfl⟩
    · split
      · exact ⟨_, _, fun _ => rfl⟩
      · exact ⟨_, _, fun _ => rfl⟩
  · split
    · exact ⟨_, _, fun _ => rfl⟩
    · exact ⟨_, _, fun _ => rfl⟩

theorem clustersAfter_append {s : List Char} (hs : joiner ∉ s) (last : Option Char)
    (found : List Cluster) :
    ∃ before, ∀ t,
      clustersAfter last found (s ++ t) = clustersAfter before (clustersAfter last found s) t := by
  induction s generalizing last found with
  | nil => exact ⟨last, fun t => rfl⟩
  | cons c rest ih =>
      obtain ⟨hc, hrest⟩ := not_or.mp (mt List.mem_cons.mpr hs)
      obtain ⟨middle, next, hstep⟩ := clustersAfter_cons (Ne.symm hc) last found
      obtain ⟨before, hbefore⟩ := ih hrest middle next
      refine ⟨before, fun t => ?_⟩
      rw [List.cons_append, hstep, hstep, hbefore]

theorem clustersAfter_spaces (last : Option Char) (found : List Cluster) (n : Nat) :
    clustersAfter last found (List.replicate n ' ') = List.replicate n ⟨[' '], 1⟩ ++ found := by
  induction n generalizing last found with
  | zero => rfl
  | succ n ih =>
      have hspace : clustersAfter last found (' ' :: List.replicate n ' ') =
          clustersAfter (some ' ') (⟨[' '], 1⟩ :: found) (List.replicate n ' ') := by
        rw [clustersAfter.eq_def]
        rfl
      rw [List.replicate_succ, hspace, ih, List.replicate_succ', List.append_assoc]
      rfl

theorem clusters_append_spaces {s : List Char} (hs : joiner ∉ s) (n : Nat) :
    clusters (s ++ List.replicate n ' ') = clusters s ++ List.replicate n ⟨[' '], 1⟩ := by
  obtain ⟨before, hbefore⟩ := clustersAfter_append hs none []
  rw [clusters, hbefore, clustersAfter_spaces, List.reverse_append, List.reverse_replicate]
  rfl

/-- Only the group that a text starts with may take no cell. -/
theorem pos_of_mem_dropLast_clustersAfter {last : Option Char} {s : List Char}
    (h : ∀ group ∈ found.dropLast, 0 < group.cells) :
    ∀ group ∈ (clustersAfter last found s).dropLast, 0 < group.cells := by
  have hextend (chars : List Char) (cells : Nat) {found : List Cluster}
      (h : ∀ group ∈ found.dropLast, 0 < group.cells) :
      ∀ group ∈ (extendCluster chars cells found).dropLast, 0 < group.cells := by
    match found with
    | [] => exact fun _ hmem => absurd hmem List.not_mem_nil
    | [_] => exact fun _ hmem => absurd hmem List.not_mem_nil
    | first :: second :: rest =>
        obtain ⟨hfirst, hrest⟩ := List.forall_mem_cons.mp h
        exact List.forall_mem_cons.mpr ⟨Nat.add_pos_left hfirst _, hrest⟩
  fun_induction clustersAfter last found s with
  | case1 => exact h
  | case2 last found rest hempty ih => exact ih fun _ hmem => absurd hmem List.not_mem_nil
  | case3 => exact hextend _ _ h
  | case4 last found _ d others ih => exact ih (hextend _ _ h)
  | case5 last found rest hempty _ ih => exact ih fun _ hmem => absurd hmem List.not_mem_nil
  | case6 last found rest _ _ _ ih => exact ih (hextend _ _ h)
  | case7 last found rest _ _ _ ih => exact ih (hextend _ _ h)
  | case8 last found c rest _ _ _ ih => exact ih (hextend _ _ h)
  | case9 last found c rest _ _ hcells ih =>
      apply ih
      cases found with
      | nil => exact fun _ hmem => absurd hmem List.not_mem_nil
      | cons first others =>
          exact List.forall_mem_cons.mpr ⟨Nat.pos_of_ne_zero hcells, h⟩

theorem pos_of_mem_tail_clusters (s : List Char) :
    ∀ group ∈ (clusters s).tail, 0 < group.cells := by
  intro group hgroup
  rw [clusters, List.tail_reverse, List.mem_reverse] at hgroup
  have hnone : ∀ group ∈ ([] : List Cluster).dropLast, 0 < group.cells :=
    fun _ hmem => absurd hmem List.not_mem_nil
  exact pos_of_mem_dropLast_clustersAfter hnone group hgroup

/-- Groups that fit are kept. -/
theorem cropClusters_append (hwidth : 0 < width) (hpos : ∀ group ∈ groups.tail, 0 < group.cells)
    (hfits : groupCells groups ≤ width) (more : List Cluster) :
    cropClusters width (groups ++ more) =
      groups.flatMap Cluster.chars ++ cropClusters (width - groupCells groups) more := by
  induction groups generalizing width with
  | nil => rfl
  | cons group rest ih =>
      have hsum : groupCells (group :: rest) = group.cells + groupCells rest := rfl
      rw [List.cons_append, cropClusters, if_neg (Nat.ne_of_gt hwidth), if_pos (by omega),
        List.flatMap_cons, List.append_assoc, hsum, ← Nat.sub_sub]
      cases hrest : rest with
      | nil => rfl
      | cons next others =>
          have hnext : 0 < next.cells := hpos next (by simp [hrest])
          have hmore : groupCells rest = next.cells + groupCells others := by rw [hrest]; rfl
          rw [← hrest, ih (by omega) (fun group hgroup => hpos group (List.mem_of_mem_tail hgroup))
            (by omega)]

theorem cropClusters_spaces (width n : Nat) :
    cropClusters width (List.replicate n ⟨[' '], 1⟩) = List.replicate (min width n) ' ' := by
  induction n generalizing width with
  | zero => rw [Nat.min_zero]; rfl
  | succ n ih =>
      rw [List.replicate_succ, cropClusters]
      split
      case isTrue hzero => rw [hzero, Nat.zero_min]; rfl
      case isFalse hmore =>
          have hone : 1 ≤ width := Nat.pos_of_ne_zero hmore
          have hmin : min width (n + 1) = min (width - 1) n + 1 := by omega
          rw [if_pos hone, ih, hmin, List.replicate_succ]
          rfl

/-- A text that fits without the spaces at its end loses only some of these. -/
theorem fitCells_append_spaces {s : List Char} (hs : joiner ∉ s) (hwidth : 0 < width)
    (hfits : cellLen s ≤ width) (n : Nat) :
    ∃ k, fitCells width (s ++ List.replicate n ' ') = s ++ List.replicate k ' ' := by
  rw [fitCells]
  split
  case isTrue =>
      refine ⟨n + (width - cellLen (s ++ List.replicate n ' ')), ?_⟩
      rw [List.append_assoc, List.replicate_append_replicate]
  case isFalse =>
      refine ⟨min (width - groupCells (clusters s)) n, ?_⟩
      rw [clusters_append_spaces hs, cropClusters_append hwidth (pos_of_mem_tail_clusters s)
        (by rwa [groupCells_clusters_of_not_mem hs]), cropClusters_spaces, flatMap_chars_clusters]

end Parley.Text
