import Mathlib.Data.List.Chain
import Parley.Proofs.Text.Words
import Parley.Text.Wrap

/-!
# Shortened text

A text is shortened by its words: they are written with single spaces between them, and what
goes beyond the limit is cut off and leaves an ellipsis.  Cut words with an ellipsis behind them
are words again, so shortening a second time changes nothing.
-/

namespace Parley.Text

open Wire (isLineBreak)

/-! ## Words with spaces between them -/

/-- Texts that are words: not empty, and without blanks. -/
def AreWords (parts : List (List Char)) : Prop :=
  ∀ part ∈ parts, IsSolid part ∧ part ≠ []

theorem areWords_words (s : List Char) : AreWords (words s) :=
  fun _ hword => ⟨isSolid_of_mem_words hword, ne_nil_of_mem_words hword⟩

section Written

variable {parts : List (List Char)} (h : AreWords parts)
include h

theorem words_intercalate : words ([' '].intercalate parts) = parts := by
  induction parts with
  | nil => rfl
  | cons part rest ih =>
      obtain ⟨⟨hsolid, hne⟩, hrest⟩ := List.forall_mem_cons.mp h
      by_cases hlast : rest = []
      · rw [hlast, List.intercalate_singleton, words_of_isSolid hsolid hne]
      · rw [List.intercalate_cons_of_ne_nil hlast, List.append_assoc, List.singleton_append,
          words_append_blank part rfl, words_of_isSolid hsolid hne, ih hrest]
        rfl

/-- Words that are cut off at any place, with a letter behind the cut, are words again. -/
theorem exists_areWords_take {c : Char} (hc : isBlank c = false) (limit : Nat) :
    ∃ others, AreWords others ∧
      ([' '].intercalate parts).take limit ++ [c] = [' '].intercalate others := by
  induction parts generalizing limit with
  | nil =>
      refine ⟨[[c]], List.forall_mem_singleton.mpr ⟨?_, List.cons_ne_nil c []⟩, ?_⟩
      · exact List.forall_mem_singleton.mpr hc
      · rw [List.intercalate_nil, List.take_nil, List.intercalate_singleton]
        rfl
  | cons part rest ih =>
      obtain ⟨⟨hsolid, hne⟩, hrest⟩ := List.forall_mem_cons.mp h
      -- the cut is in the first word, or the words behind the space after it are cut
      have hcut : ∃ others, AreWords others ∧
          part.take limit ++ [c] = [' '].intercalate others := by
        refine ⟨[part.take limit ++ [c]], ?_, List.intercalate_singleton.symm⟩
        refine List.forall_mem_singleton.mpr ⟨?_, List.concat_ne_nil c _⟩
        refine List.forall_mem_append.mpr ⟨?_, List.forall_mem_singleton.mpr hc⟩
        exact fun d hd => hsolid d (List.mem_of_mem_take hd)
      by_cases hlast : rest = []
      · rwa [hlast, List.intercalate_singleton]
      · rw [List.intercalate_cons_of_ne_nil hlast, List.append_assoc, List.singleton_append]
        obtain hinside | hbehind := Nat.lt_or_ge part.length limit |>.symm
        · rwa [List.take_append_of_le_length hinside]
        · obtain ⟨more, rfl⟩ := Nat.exists_eq_add_of_lt hbehind
          obtain ⟨others, hothers, htake⟩ := ih hrest more
          have hothersNe : others ≠ [] := by
            rintro rfl
            exact List.concat_ne_nil c _ htake
          refine ⟨part :: others, List.forall_mem_cons.mpr ⟨⟨hsolid, hne⟩, hothers⟩, ?_⟩
          rw [List.intercalate_cons_of_ne_nil hothersNe, ← htake, Nat.add_assoc,
            List.take_length_add_append, List.take_succ_cons]
          simp only [List.append_assoc, List.cons_append, List.nil_append]

theorem eq_space_of_mem_intercalate :
    ∀ c ∈ [' '].intercalate parts, isBlank c = true → c = ' ' := by
  induction parts with
  | nil => exact fun _ hmem => absurd hmem List.not_mem_nil
  | cons part rest ih =>
      obtain ⟨⟨hsolid, -⟩, hrest⟩ := List.forall_mem_cons.mp h
      have hpart : ∀ c ∈ part, isBlank c = true → c = ' ' :=
        fun c hc hblank => absurd hblank (ne_true_of_eq_false (hsolid c hc))
      by_cases hlast : rest = []
      · rwa [hlast, List.intercalate_singleton]
      · rw [List.intercalate_cons_of_ne_nil hlast, List.append_assoc]
        exact List.forall_mem_append.mpr
          ⟨hpart, List.forall_mem_cons.mpr ⟨fun _ => rfl, ih hrest⟩⟩

theorem letter_of_mem_head? : ∀ c ∈ ([' '].intercalate parts).head?, isBlank c = false := by
  cases parts with
  | nil => exact fun c hc => nomatch hc
  | cons part rest =>
      obtain ⟨⟨hsolid, hne⟩, -⟩ := List.forall_mem_cons.mp h
      obtain ⟨first, tail, rfl⟩ := List.exists_cons_of_ne_nil hne
      have hhead : ([' '].intercalate ((first :: tail) :: rest)).head? = some first := by
        cases rest <;> rfl
      rw [hhead]
      rintro c ⟨⟩
      exact hsolid first List.mem_cons_self

/-- Of two neighbours one is a letter. -/
theorem isChain_intercalate :
    ([' '].intercalate parts).IsChain fun c d => isBlank c = false ∨ isBlank d = false := by
  induction parts with
  | nil => exact .nil
  | cons part rest ih =>
      obtain ⟨⟨hsolid, -⟩, hrest⟩ := List.forall_mem_cons.mp h
      have hpart : part.IsChain fun c d => isBlank c = false ∨ isBlank d = false := by
        rw [List.isChain_iff_getElem]
        exact fun i hi => Or.inl (hsolid _ (List.getElem_mem _))
      by_cases hlast : rest = []
      · rwa [hlast, List.intercalate_singleton]
      · rw [List.intercalate_cons_of_ne_nil hlast, List.append_assoc, List.isChain_append,
          List.singleton_append, List.isChain_cons]
        exact ⟨hpart, ⟨fun c hc => Or.inr (letter_of_mem_head? hrest c hc), ih hrest⟩,
          fun c hc d _ => Or.inl (hsolid c (List.mem_of_getLast? hc))⟩

end Written

/-! ## Shortening -/

theorem toList_truncate (s : String) (limit : Nat) :
    (truncate s limit).toList =
      if (collapseBlanks s).length ≤ limit then (collapseBlanks s).toList
      else (collapseBlanks s).toList.take limit ++ [ellipsis] := by
  have hlength : (collapseBlanks s).length = ([' '].intercalate (words s.toList)).length := by
    rw [collapseBlanks, String.length_ofList]
  rw [truncate, hlength, collapseBlanks, String.toList_ofList]
  by_cases hfits : ([' '].intercalate (words s.toList)).length ≤ limit
  · rw [if_pos hfits, if_pos (by omega), String.toList_ofList]
  · have hslice : sliceLength ([' '].intercalate (words s.toList)).length limit = limit := by
      rw [sliceLength, if_neg (by omega), Int.toNat_natCast]
      omega
    rw [if_neg hfits, if_neg (by omega), hslice, String.toList_ofList]

/-- What a text is shortened to are words with single spaces between them. -/
theorem exists_areWords_truncate (s : String) (limit : Nat) :
    ∃ parts, AreWords parts ∧ (truncate s limit).toList = [' '].intercalate parts := by
  have hwords := areWords_words s.toList
  rw [toList_truncate, collapseBlanks, String.toList_ofList]
  split
  · exact ⟨_, hwords, rfl⟩
  · exact exists_areWords_take hwords (show isBlank ellipsis = false from rfl) limit

theorem collapseBlanks_truncate (s : String) (limit : Nat) :
    collapseBlanks (truncate s limit) = truncate s limit := by
  obtain ⟨parts, hparts, htext⟩ := exists_areWords_truncate s limit
  rw [collapseBlanks, htext, words_intercalate hparts, ← htext, String.ofList_toList]

theorem length_truncate_le (s : String) (limit : Nat) : (truncate s limit).length ≤ limit + 1 := by
  rw [← String.length_toList, toList_truncate]
  split
  case isTrue hfits =>
      rw [String.length_toList]
      omega
  case isFalse hlong =>
      rw [List.length_append, List.length_take, List.length_singleton]
      omega

/-- What is cut once is cut at the same place again. -/
theorem truncate_truncate_self (s : String) (limit : Nat) :
    truncate (truncate s limit) limit = truncate s limit := by
  rw [← String.toList_inj, toList_truncate (truncate s limit), collapseBlanks_truncate]
  split
  case isTrue => rfl
  case isFalse hlong =>
      rw [← String.length_toList, toList_truncate] at hlong
      rw [toList_truncate]
      split at hlong
      case isTrue hfits => exact absurd hfits hlong
      case isFalse hcut =>
          have hlength : ((collapseBlanks s).toList.take limit).length = limit := by
            rw [List.length_take, String.length_toList]
            omega
          rw [if_neg hcut, List.take_left' hlength]

/-- A text is shortened to its words with single spaces between them if these have no more
characters than the limit, and otherwise to as many of their characters and an ellipsis.  So it
exceeds the limit by one character at most, holds no line break and no two blanks in a row,
depends on the words only, and is left as it is when it is shortened again. -/
theorem truncate_shortens (s : String) (limit : Nat) :
    (truncate s limit =
        if (collapseBlanks s).length ≤ limit then collapseBlanks s
        else takeText (collapseBlanks s) limit ++ String.singleton ellipsis) ∧
      (truncate s limit).length ≤ limit + 1 ∧
      (∀ c ∈ (truncate s limit).toList, isLineBreak c = false) ∧
      ((truncate s limit).toList.IsChain fun c d => isBlank c = false ∨ isBlank d = false) ∧
      (∀ t : String, words t.toList = words s.toList → truncate t limit = truncate s limit) ∧
      truncate (truncate s limit) limit = truncate s limit := by
  obtain ⟨parts, hparts, htext⟩ := exists_areWords_truncate s limit
  refine ⟨?_, length_truncate_le s limit, ?_, ?_, ?_, truncate_truncate_self s limit⟩
  · rw [← String.toList_inj, toList_truncate]
    split
    case isTrue => rfl
    case isFalse =>
        rw [takeText, String.toList_append, String.toList_ofList, String.toList_singleton]
  · intro c hc
    by_contra hbreak
    rw [Bool.not_eq_false] at hbreak
    rw [htext] at hc
    have hspace := eq_space_of_mem_intercalate hparts c hc (isBlank_of_isLineBreak hbreak)
    rw [hspace] at hbreak
    exact absurd hbreak (by decide)
  · rw [htext]
    exact isChain_intercalate hparts
  · intro t hwords
    rw [truncate, truncate, hwords]

/-- The cut is behind a space, which stays in front of the ellipsis. -/
example : truncate "one  two" 4 = "one …" := by decide

end Parley.Text
