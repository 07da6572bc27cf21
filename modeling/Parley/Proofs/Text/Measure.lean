import Mathlib.Data.List.Basic
import Parley.Text.Cells
import Parley.Proofs.Text.Rows

/-!
# Measuring a text in parts

The width of a text is not the sum of the widths of its parts: a joiner at the end of one
part swallows the first character of the next, and a selector at the start of a part can
widen the last character of the one before.  What a part adds depends on these two things
alone, and they account for one cell at most.
-/

namespace Parley.Text

/-- How far a measurement has come: the last visible character that no selector has used up,
and whether a joiner swallows the next character. -/
structure Gauge where
  last : Option Char
  joined : Bool

namespace Gauge

/-- A measurement of which nothing is done. -/
def start : Gauge := ⟨none, false⟩

/-- The cells that a character adds. -/
def cells (g : Gauge) (c : Char) : Nat :=
  if g.joined then 0
  else if c = emojiSelector then if g.last.any isWidened then 1 else 0
  else charCells c

/-- The measurement after a character. -/
def next (g : Gauge) (c : Char) : Gauge :=
  if g.joined then { g with joined := false }
  else if c = joiner then { g with joined := true }
  else if c = emojiSelector then { g with last := none }
  else if charCells c = 0 then g
  else { g with last := some c }

def after (g : Gauge) (s : List Char) : Gauge :=
  s.foldl next g

/-- The cells that a text adds. -/
def measure (g : Gauge) : List Char → Nat
  | [] => 0
  | c :: rest => g.cells c + (g.next c).measure rest

theorem measure_append (g : Gauge) (s t : List Char) :
    g.measure (s ++ t) = g.measure s + (g.after s).measure t := by
  induction s generalizing g with
  | nil => exact (Nat.zero_add _).symm
  | cons c rest ih =>
      rw [List.cons_append, measure, ih, measure, Nat.add_assoc]
      rfl

theorem after_append (g : Gauge) (s t : List Char) : g.after (s ++ t) = (g.after s).after t :=
  List.foldl_append

theorem cells_joiner (g : Gauge) : g.cells joiner = 0 := by
  have hne : joiner ≠ emojiSelector := by decide
  rw [cells, if_neg hne, charCells_joiner]
  exact ite_self 0

theorem after_singleton (g : Gauge) (c : Char) : g.after [c] = g.next c := rfl

theorem measure_singleton (g : Gauge) (c : Char) : g.measure [c] = g.cells c :=
  Nat.add_zero _

/-- A character that is no joiner leaves nothing waiting. -/
theorem joined_next {g : Gauge} {c : Char} (hc : c ≠ joiner) : (g.next c).joined = false := by
  rcases g with ⟨last, joined⟩
  cases joined with
  | true => rfl
  | false =>
      rw [next, if_neg Bool.false_ne_true, if_neg hc]
      split
      · rfl
      · split
        · rfl
        · rfl

theorem last_next_selector {g : Gauge} (hg : g.joined = false) :
    (g.next emojiSelector).last = none := by
  rw [next, hg, if_neg Bool.false_ne_true, if_neg (show emojiSelector ≠ joiner by decide),
    if_pos rfl]

theorem next_joiner (last : Option Char) : next ⟨last, false⟩ joiner = ⟨last, true⟩ := rfl

/-- A joiner and the character after it change nothing. -/
theorem after_joiner {g : Gauge} (hg : g.joined = false) (d : Char) :
    g.after [joiner, d] = g := by
  rcases g with ⟨last, joined⟩
  cases hg
  rfl

theorem measure_joiner {g : Gauge} (hg : g.joined = false) (d : Char) :
    g.measure [joiner, d] = 0 := by
  rcases g with ⟨last, joined⟩
  cases hg
  rw [measure, cells_joiner, next_joiner]
  rfl

end Gauge

theorem cellLenAfter_eq_measure (last : Option Char) (s : List Char) :
    cellLenAfter last s = Gauge.measure ⟨last, false⟩ s := by
  fun_induction cellLenAfter last s with
  | case1 => rfl
  | case2 last => rw [Gauge.measure, Gauge.cells_joiner, Gauge.measure]
  | case3 last c others ih =>
      rw [ih, Gauge.measure, Gauge.cells_joiner, Gauge.next_joiner, Gauge.measure]
      simp [Gauge.cells, Gauge.next]
  | case4 last rest hne ih =>
      rw [ih, Gauge.measure]
      simp [Gauge.cells, Gauge.next, hne]
  | case5 last c rest hjoiner hselector hcells ih =>
      rw [ih, Gauge.measure]
      simp [Gauge.cells, Gauge.next, hjoiner, hselector, hcells]
  | case6 last c rest hjoiner hselector hcells ih =>
      rw [ih, Gauge.measure]
      simp [Gauge.cells, Gauge.next, hjoiner, hselector, hcells]

theorem cellLen_eq_measure (s : List Char) : cellLen s = Gauge.start.measure s :=
  cellLenAfter_eq_measure none s

namespace Gauge

/-- The last visible character makes a difference of one cell at most, and of none if no
selector can widen it. -/
theorem measure_last (last : Option Char) (joined : Bool) (s : List Char) :
    measure ⟨none, joined⟩ s ≤ measure ⟨last, joined⟩ s ∧
      measure ⟨last, joined⟩ s ≤
        measure ⟨none, joined⟩ s + (if last.any isWidened then 1 else 0) := by
  induction s generalizing joined with
  | nil => exact ⟨Nat.le_refl 0, Nat.zero_le _⟩
  | cons c rest ih =>
      rw [measure, measure]
      cases joined with
      | true => simpa [cells, next] using ih false
      | false =>
          by_cases hjoiner : c = joiner
          · rw [hjoiner, cells_joiner, cells_joiner, next_joiner, next_joiner]
            simpa using ih true
          · by_cases hselector : c = emojiSelector
            · simp [cells, next, hselector, show emojiSelector ≠ joiner by decide, Nat.add_comm]
            · by_cases hcells : charCells c = 0
              · simpa [cells, next, hjoiner, hselector, hcells] using ih false
              · simp [cells, next, hjoiner, hselector, hcells]

end Gauge

/-! ## Texts that are put together -/

theorem cellLen_append (s t : List Char) :
    cellLen (s ++ t) = cellLen s + (Gauge.start.after s).measure t := by
  rw [cellLen_eq_measure, cellLen_eq_measure, Gauge.measure_append]

theorem cellLen_le_append (s t : List Char) : cellLen s ≤ cellLen (s ++ t) := by
  rw [cellLen_append]
  exact Nat.le_add_right _ _

/-- A character adds no more than its own cells and one for a character that it widens. -/
theorem cellLen_append_singleton_le (s : List Char) (c : Char) :
    cellLen (s ++ [c]) ≤ cellLen s + 1 + cellLen [c] := by
  have hcells (g : Gauge) : g.cells c ≤ 1 + Gauge.start.cells c := by
    by_cases hselector : c = emojiSelector
    · rw [Gauge.cells, if_pos hselector]
      split
      · exact Nat.zero_le _
      · split
        · exact Nat.le_add_right 1 _
        · exact Nat.zero_le _
    · rw [Gauge.cells, Gauge.cells, if_neg hselector, if_neg hselector]
      split
      · exact Nat.zero_le _
      · exact Nat.le_add_left _ 1
  have hadded := hcells (Gauge.start.after s)
  rw [cellLen_append, cellLen_eq_measure [c]]
  simp only [Gauge.measure]
  omega

theorem Gauge.measure_space {g : Gauge} (hg : g.joined = false) (t : List Char) :
    g.measure (' ' :: t) = 1 + cellLen t := by
  rcases g with ⟨last, joined⟩
  cases hg
  have hlast := Gauge.measure_last (some ' ') false t
  have hcells : Gauge.cells ⟨last, false⟩ ' ' = 1 := rfl
  have hnext : Gauge.next ⟨last, false⟩ ' ' = ⟨some ' ', false⟩ := rfl
  have hspace : (some ' ').any isWidened = false := rfl
  rw [hspace, if_neg Bool.false_ne_true] at hlast
  rw [cellLen_eq_measure, Gauge.start, Gauge.measure, hcells, hnext]
  omega

/-- A space before a text keeps the text from what comes before. -/
theorem measure_space (g : Gauge) (t : List Char) :
    cellLen t ≤ g.measure (' ' :: t) ∧ g.measure (' ' :: t) ≤ 1 + cellLen t := by
  cases hjoined : g.joined with
  | true =>
      rcases g with ⟨last, joined⟩
      cases hjoined
      rw [cellLen_eq_measure, Gauge.start, Gauge.measure]
      have hlast := Gauge.measure_last last false t
      have hcells : Gauge.cells ⟨last, true⟩ ' ' = 0 := rfl
      have hnext : Gauge.next ⟨last, true⟩ ' ' = ⟨last, false⟩ := rfl
      rw [hcells, hnext]
      split at hlast
      · omega
      · omega
  | false =>
      rw [Gauge.measure_space hjoined]
      exact ⟨Nat.le_add_left _ 1, Nat.le_refl _⟩

theorem cellLen_append_space_le (s t : List Char) :
    cellLen (s ++ ' ' :: t) ≤ cellLen s + 1 + cellLen t := by
  have hspace := (measure_space (Gauge.start.after s) t).2
  rw [cellLen_append]
  omega

theorem le_cellLen_append_space (s t : List Char) : cellLen t ≤ cellLen (s ++ ' ' :: t) := by
  have hspace := (measure_space (Gauge.start.after s) t).1
  rw [cellLen_append]
  omega

/-- A text that does not end in a joiner: nothing that follows it is swallowed. -/
def IsClosed (s : List Char) : Prop :=
  joiner ∉ s.getLast?

theorem isClosed_of_notMem {s : List Char} (hs : joiner ∉ s) : IsClosed s :=
  fun hlast => hs (List.mem_of_getLast? hlast)

theorem isClosed_concat {c : Char} (hc : c ≠ joiner) (s : List Char) : IsClosed (s ++ [c]) := by
  rw [IsClosed, List.getLast?_concat]
  exact fun hlast => hc (Option.some.inj hlast)

theorem IsClosed.append {s t : List Char} (hs : IsClosed s) (ht : IsClosed t) :
    IsClosed (s ++ t) := by
  rw [IsClosed, List.getLast?_append]
  intro hlast
  obtain hlast | ⟨-, hlast⟩ := Option.or_eq_some_iff.mp hlast
  · exact ht hlast
  · exact hs hlast

/-- Only a joiner keeps a measurement waiting for the next character. -/
theorem Gauge.joined_after {s : List Char} (hs : IsClosed s) {g : Gauge}
    (hg : g.joined = false) : (g.after s).joined = false := by
  obtain rfl | ⟨front, c, rfl⟩ := List.eq_nil_or_concat' s
  · exact hg
  · have hc : c ≠ joiner := by
      rintro rfl
      exact hs List.getLast?_concat
    rw [Gauge.after_append, Gauge.after_singleton]
    exact Gauge.joined_next hc

theorem cellLen_append_space {row : List Char} (hrow : joiner ∉ row) (piece : List Char) :
    cellLen (row ++ ' ' :: piece) = cellLen row + 1 + cellLen piece := by
  have hjoined : (Gauge.start.after row).joined = false :=
    Gauge.joined_after (isClosed_of_notMem hrow) rfl
  rw [cellLen_append, Gauge.measure_space hjoined, Nat.add_assoc]

/-- What follows may widen the text before it, and loses no cell to it. -/
theorem cellLen_add_le {s : List Char} (hs : IsClosed s) (t : List Char) :
    cellLen s + cellLen t ≤ cellLen (s ++ t) := by
  have hjoined : (Gauge.start.after s).joined = false := Gauge.joined_after hs rfl
  have hopen : Gauge.start.after s = ⟨(Gauge.start.after s).last, false⟩ := by rw [← hjoined]
  have hlast := (Gauge.measure_last (Gauge.start.after s).last false t).1
  rw [← hopen] at hlast
  rw [cellLen_append, cellLen_eq_measure t]
  exact Nat.add_le_add_left hlast _

/-- Without joiners and selectors the width is the sum of the characters' cells. -/
theorem cellLen_eq_sumCells {s : List Char} (hjoiner : joiner ∉ s)
    (hselector : emojiSelector ∉ s) : cellLen s = sumCells s := by
  have hafter (last : Option Char) : cellLenAfter last s = sumCells s := by
    induction s generalizing last with
    | nil => rfl
    | cons c rest ih =>
        obtain ⟨hnotJoiner, hjoiner⟩ := not_or.mp (mt List.mem_cons.mpr hjoiner)
        obtain ⟨hnotSelector, hselector⟩ := not_or.mp (mt List.mem_cons.mpr hselector)
        have hsum : sumCells (c :: rest) = charCells c + sumCells rest := rfl
        rw [hsum, cellLenAfter.eq_def]
        dsimp only
        rw [if_neg (Ne.symm hnotJoiner), if_neg (Ne.symm hnotSelector), ih hjoiner hselector,
          ih hjoiner hselector]
        split
        case isTrue hcells => rw [hcells, Nat.zero_add]
        case isFalse => rfl
  exact hafter none

/-! ## Single characters -/

theorem charCells_le_two (c : Char) : charCells c ≤ 2 := by
  simp only [charCells]
  repeat' split
  all_goals omega

theorem cellLen_singleton_le (c : Char) : cellLen [c] ≤ charCells c := by
  have hcells : Gauge.start.cells c = if c = emojiSelector then 0 else charCells c := rfl
  rw [cellLen_eq_measure, Gauge.measure, Gauge.measure, hcells]
  split
  · exact Nat.zero_le _
  · exact Nat.le_refl _

end Parley.Text
