import Mathlib.Data.List.DropRight
import Parley.Text.Blank

/-!
# Trimmed text

Dropping a tail leaves a text that ends in a character to keep, and what was dropped makes no
difference to it.  A text without blanks at its ends is what stripping leaves of it, whatever
blanks stand around it.
-/

namespace Parley.Text

section DropTail

variable {α : Type} {p : α → Bool} {s tail : List α}

theorem drop_length_takeWhile (p : α → Bool) (s : List α) :
    s.drop (s.takeWhile p).length = s.dropWhile p := by
  calc s.drop (s.takeWhile p).length
      = (s.takeWhile p ++ s.dropWhile p).drop (s.takeWhile p).length := by
        rw [List.takeWhile_append_dropWhile]
    _ = s.dropWhile p := List.drop_left

theorem dropTailWhile_concat (p : α → Bool) (s : List α) (c : α) :
    dropTailWhile p (s ++ [c]) = if p c then dropTailWhile p s else s ++ [c] := by
  induction s with
  | nil => rfl
  | cons d rest ih =>
      rw [List.cons_append, dropTailWhile, ih, dropTailWhile]
      cases p c with
      | true => rfl
      | false =>
          rw [if_neg Bool.false_ne_true, if_neg Bool.false_ne_true]
          cases hrest : rest ++ [c] with
          | nil => exact absurd hrest (List.concat_ne_nil c rest)
          | cons first others => rfl

theorem dropTailWhile_eq_rdropWhile (p : α → Bool) (s : List α) :
    dropTailWhile p s = s.rdropWhile p := by
  induction s using List.reverseRecOn with
  | nil => rw [List.rdropWhile_nil, dropTailWhile]
  | append_singleton s c ih => rw [dropTailWhile_concat, List.rdropWhile_concat, ih]

theorem dropTailWhile_append_of_forall (s : List α) (htail : ∀ c ∈ tail, p c = true) :
    dropTailWhile p (s ++ tail) = dropTailWhile p s := by
  induction tail using List.reverseRecOn with
  | nil => rw [List.append_nil]
  | append_singleton tail c ih =>
      rw [← List.append_assoc, dropTailWhile_concat, if_pos (htail c (by simp)),
        ih fun d hd => htail d (List.mem_append_left [c] hd)]

theorem dropTailWhile_eq_self_iff :
    dropTailWhile p s = s ↔ ∀ c ∈ s.getLast?, p c = false := by
  rw [dropTailWhile_eq_rdropWhile, List.rdropWhile_eq_self_iff]
  constructor
  · intro h c hc
    obtain ⟨hne, rfl⟩ := List.mem_getLast?_eq_getLast hc
    simpa using h hne
  · intro h hne
    simpa using h _ (List.getLast_mem_getLast? hne)

/-- What is left ends in a member to keep, and what was dropped has none. -/
theorem exists_dropTailWhile (p : α → Bool) (s : List α) :
    ∃ tail, s = dropTailWhile p s ++ tail ∧ (∀ c ∈ tail, p c = true) ∧
      ∀ c ∈ (dropTailWhile p s).getLast?, p c = false := by
  refine ⟨s.rtakeWhile p, ?_, fun c hc => List.mem_rtakeWhile_imp hc, ?_⟩
  · rw [dropTailWhile_eq_rdropWhile, List.rdropWhile_append_rtakeWhile]
  · exact dropTailWhile_eq_self_iff.mp (dropTailWhile_dropTailWhile p s)

theorem dropTailWhile_prefix (p : α → Bool) (s : List α) : dropTailWhile p s <+: s :=
  dropTailWhile_eq_rdropWhile p s ▸ List.rdropWhile_prefix p s

theorem dropTailWhile_eq_nil_iff : dropTailWhile p s = [] ↔ ∀ c ∈ s, p c = true := by
  rw [dropTailWhile_eq_rdropWhile, List.rdropWhile_eq_nil_iff]

theorem dropTailWhile_append_of_ne_nil (s : List α) (htail : dropTailWhile p tail ≠ []) :
    dropTailWhile p (s ++ tail) = s ++ dropTailWhile p tail := by
  obtain ⟨dropped, hsplit, hdropped, hlast⟩ := exists_dropTailWhile p tail
  have hkept : dropTailWhile p (s ++ dropTailWhile p tail) = s ++ dropTailWhile p tail := by
    rw [dropTailWhile_eq_self_iff, List.getLast?_append_of_ne_nil _ htail]
    exact hlast
  calc dropTailWhile p (s ++ tail)
      = dropTailWhile p (s ++ dropTailWhile p tail ++ dropped) := by
        rw [List.append_assoc, ← hsplit]
    _ = s ++ dropTailWhile p tail := by
        rw [dropTailWhile_append_of_forall _ hdropped, hkept]

theorem dropTailWhile_append_of_last (hs : ∀ c ∈ s.getLast?, p c = false) (tail : List α) :
    dropTailWhile p (s ++ tail) = s ++ dropTailWhile p tail := by
  by_cases htail : dropTailWhile p tail = []
  · rw [dropTailWhile_append_of_forall s (dropTailWhile_eq_nil_iff.mp htail), htail,
      List.append_nil, dropTailWhile_eq_self_iff.mpr hs]
  · exact dropTailWhile_append_of_ne_nil s htail

end DropTail

/-! ## Blanks at the ends -/

/-- Whether a text has no blank at either end. -/
structure IsTrimmed (s : List Char) : Prop where
  head : ∀ c ∈ s.head?, isBlank c = false
  last : ∀ c ∈ s.getLast?, isBlank c = false

theorem strip_surrounded {s before after : List Char} (hs : IsTrimmed s) (hne : s ≠ [])
    (hbefore : ∀ c ∈ before, isBlank c = true) (hafter : ∀ c ∈ after, isBlank c = true) :
    strip (before ++ s ++ after) = s := by
  obtain ⟨c, rest, rfl⟩ := List.exists_cons_of_ne_nil hne
  have hc : isBlank c = false := hs.head c rfl
  rw [strip, List.append_assoc, List.dropWhile_append_of_pos hbefore, List.cons_append,
    List.dropWhile_cons_of_neg (ne_true_of_eq_false hc), ← List.cons_append,
    dropTailWhile_append_of_forall _ hafter, dropTailWhile_eq_self_iff.mpr hs.last]

theorem isBlank_last_strip (s : List Char) : ∀ c ∈ (strip s).getLast?, isBlank c = false :=
  dropTailWhile_eq_self_iff.mp (dropTailWhile_dropTailWhile isBlank _)

end Parley.Text
