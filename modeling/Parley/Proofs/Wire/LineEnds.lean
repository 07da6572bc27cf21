import Parley.Proofs.Wire.Cutting

/-!
# Lines that are ended

A text whose last character is no separator keeps its lines when its last line is ended
and another text follows.  Every line of a text is a part of it.
-/

namespace Parley.Wire

/-- The separators that end a line of an event stream. -/
def lineEnds : List (List Char) :=
  [['\n'], ['\r', '\n'], ['\r']]

theorem growLine_append {lines : List (List Char)} (hlines : lines ≠ []) (c : Char)
    (more : List (List Char)) : growLine c (lines ++ more) = growLine c lines ++ more := by
  cases lines with
  | nil => exact absurd rfl hlines
  | cons line rest => rfl

theorem linesOf_cons_ne_nil (c : Char) (s : List Char) : linesOf (c :: s) ≠ [] := by
  induction s generalizing c with
  | nil =>
      rw [linesOf, if_neg (by simp)]
      split <;> simp [linesOf, growLine]
  | cons d rest ih =>
      rw [linesOf]
      split
      · exact ih d
      split
      · simp
      · cases linesOf (d :: rest) <;> simp [growLine]

/-- Only a return is read together with what follows it. -/
theorem linesOf_lineEnd {eol : List Char} (heol : eol ∈ lineEnds) {s : List Char}
    (hs : eol = ['\r'] → s.head? ≠ some '\n') : linesOf (eol ++ s) = [] :: linesOf s := by
  simp only [lineEnds, List.mem_cons, List.not_mem_nil, or_false] at heol
  rcases heol with rfl | rfl | rfl
  · exact linesOf_cons_of_break (by decide) (by decide) s
  · exact linesOf_return_feed s
  · rw [List.singleton_append, linesOf, if_neg (fun h => hs rfl h.2), if_pos (by decide)]

theorem linesOf_append_lineEnd {eol : List Char} (heol : eol ∈ lineEnds) {s : List Char}
    (hs : eol = ['\r'] → s.head? ≠ some '\n') {a : List Char}
    (ha : ∃ c, a.getLast? = some c ∧ isLineBreak c = false) :
    linesOf (a ++ (eol ++ s)) = linesOf a ++ linesOf s := by
  induction a with
  | nil => exact absurd ha (by simp)
  | cons c rest ih =>
      cases rest with
      | nil =>
          have hc : isLineBreak c = false := by simpa using ha
          rw [List.singleton_append, linesOf_cons_of_not_break hc, linesOf_lineEnd heol hs,
            linesOf_cons_of_not_break hc]
          rfl
      | cons d tail =>
          have hrest := ih (by simpa using ha)
          rw [List.cons_append, linesOf, linesOf, hrest, List.cons_append, List.head?_cons,
            List.head?_cons]
          by_cases hreturn : c = '\r' ∧ some d = some '\n'
          · rw [if_pos hreturn, if_pos hreturn]
          by_cases hbreak : isLineBreak c = true
          · rw [if_neg hreturn, if_pos hbreak, if_neg hreturn, if_pos hbreak]
            rfl
          · rw [if_neg hreturn, if_neg hbreak, if_neg hreturn, if_neg hbreak]
            exact growLine_append (linesOf_cons_ne_nil d tail) c _

theorem prefix_of_linesOf {s line : List Char} {rest : List (List Char)}
    (hs : linesOf s = line :: rest) : line <+: s := by
  induction s generalizing line rest with
  | nil => exact absurd hs (by simp [linesOf])
  | cons c tail ih =>
      rw [linesOf] at hs
      split at hs
      case isTrue hreturn =>
          obtain ⟨after, rfl⟩ := List.head?_eq_some_iff.mp hreturn.2
          rw [linesOf_cons_of_break (by decide) (by decide)] at hs
          rw [← (List.cons.inj hs).1]
          exact List.nil_prefix
      split at hs
      case isTrue =>
          rw [← (List.cons.inj hs).1]
          exact List.nil_prefix
      case isFalse =>
          cases hlines : linesOf tail with
          | nil =>
              rw [hlines] at hs
              rw [← (List.cons.inj hs).1]
              exact ⟨tail, rfl⟩
          | cons first others =>
              rw [hlines] at hs
              rw [← (List.cons.inj hs).1]
              exact List.cons_prefix_cons.mpr ⟨rfl, ih hlines⟩

/-- A line is a part of the text. -/
theorem infix_of_mem_linesOf {s line : List Char} (hline : line ∈ linesOf s) : line <:+: s := by
  induction s with
  | nil => exact absurd hline (by simp [linesOf])
  | cons c tail ih =>
      have hlater : line ∈ linesOf tail → line <:+: c :: tail :=
        fun hmem => (ih hmem).trans (List.suffix_cons c tail).isInfix
      rw [linesOf] at hline
      split at hline
      case isTrue => exact hlater hline
      split at hline
      case isTrue =>
          rcases List.mem_cons.mp hline with rfl | hmem
          · exact List.nil_infix
          · exact hlater hmem
      case isFalse =>
          cases hlines : linesOf tail with
          | nil =>
              rw [hlines] at hline
              rw [List.mem_singleton.mp hline]
              exact ⟨[], tail, rfl⟩
          | cons first others =>
              rw [hlines] at hline
              rcases List.mem_cons.mp hline with rfl | hmem
              · exact (List.cons_prefix_cons.mpr ⟨rfl, prefix_of_linesOf hlines⟩).isInfix
              · exact hlater (hlines ▸ List.mem_cons_of_mem first hmem)

end Parley.Wire
