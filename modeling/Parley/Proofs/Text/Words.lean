import Parley.Proofs.Text.Rows
import Parley.Wire.Lines

/-!
# Words and lines of texts that are put together

A text falls into the same words and lines however it was put together, as long as what
comes between the parts is blank, or a line feed.  The letters of a text are all of its
characters but the blanks.
-/

namespace Parley.Text

theorem pieces_eq_splitOnP {α : Type} (cut : α → Bool) (s : List α) :
    pieces cut s = s.splitOnP cut := by
  induction s with
  | nil => rw [List.splitOnP_nil, pieces]
  | cons c rest ih =>
      rw [List.splitOnP_cons_eq_if_modifyHead, ← ih]
      cases hc : cut c with
      | true => rw [pieces_of_cut cut hc, if_pos rfl]
      | false =>
          obtain ⟨first, others, hrest, hcons⟩ := pieces_of_not_cut cut hc rest
          rw [hcons, hrest, if_neg Bool.false_ne_true, List.modifyHead_cons]

theorem exists_pieces_concat {α : Type} (cut : α → Bool) (s : List α) :
    ∃ others last, pieces cut s = others ++ [last] :=
  ⟨_, _, (List.dropLast_concat_getLast (pieces_ne_nil cut s)).symm⟩

theorem pieces_cons {α : Type} {cut : α → Bool} {c : α} (hc : cut c = false)
    {rest first : List α} {others : List (List α)} (hrest : pieces cut rest = first :: others) :
    pieces cut (c :: rest) = (c :: first) :: others := by
  rw [pieces, if_neg (ne_true_of_eq_false hc), hrest]

/-- Where two texts meet, the last piece of the one goes on in the first piece of the other. -/
theorem pieces_append {α : Type} {cut : α → Bool} {s t last first : List α}
    {others later : List (List α)} (hs : pieces cut s = others ++ [last])
    (ht : pieces cut t = first :: later) :
    pieces cut (s ++ t) = others ++ (last ++ first) :: later := by
  induction s generalizing others last with
  | nil =>
      have hnil : [] ++ [[]] = others ++ [last] := hs
      obtain ⟨rfl, hlast⟩ := List.append_inj' hnil rfl
      rw [← List.singleton_inj.mp hlast]
      exact ht
  | cons c rest ih =>
      rw [List.cons_append]
      cases hc : cut c with
      | true =>
          rw [pieces_of_cut cut hc] at hs ⊢
          cases others with
          | nil => exact absurd (List.cons.inj hs).2 (pieces_ne_nil cut rest)
          | cons front tail =>
              obtain ⟨hfront, hrest⟩ := List.cons.inj hs
              rw [ih hrest, hfront, List.cons_append]
      | false =>
          obtain ⟨front, tail, hrest, hcons⟩ := pieces_of_not_cut cut hc rest
          rw [hcons] at hs
          cases others with
          | nil =>
              obtain ⟨hlast, htail⟩ := List.cons.inj hs
              have hfront : pieces cut rest = [] ++ [front] := by
                rw [hrest, htail]
                rfl
              have hjoined := ih hfront
              rw [pieces_cons hc hjoined, ← hlast]
              rfl
          | cons row between =>
              obtain ⟨hrow, htail⟩ := List.cons.inj hs
              have hfront : pieces cut rest = front :: between ++ [last] := by
                rw [hrest, htail]
                rfl
              have hjoined := ih hfront
              rw [pieces_cons hc hjoined, hrow]
              rfl

theorem pieces_append_cut {α : Type} {cut : α → Bool} (s : List α) {c : α} (hc : cut c = true)
    (t : List α) : pieces cut (s ++ c :: t) = pieces cut s ++ pieces cut t := by
  rw [pieces_eq_splitOnP, List.splitOnP_append_cons s t hc, ← pieces_eq_splitOnP,
    ← pieces_eq_splitOnP]

theorem flatten_pieces {α : Type} (cut : α → Bool) (s : List α) :
    (pieces cut s).flatten = s.filter fun c => !cut c := by
  induction s with
  | nil => rfl
  | cons c rest ih =>
      cases hc : cut c with
      | true =>
          rw [pieces_of_cut cut hc, List.flatten_cons, ih, List.nil_append,
            List.filter_cons_of_neg (by simp [hc])]
      | false =>
          obtain ⟨first, others, hrest, hcons⟩ := pieces_of_not_cut cut hc rest
          rw [hrest, List.flatten_cons] at ih
          rw [hcons, List.flatten_cons, List.cons_append, ih,
            List.filter_cons_of_pos (by simp [hc])]

/-! ## Lines -/

theorem lines_eq_splitOn (s : List Char) : lines s = s.splitOn '\n' :=
  (pieces_eq_splitOnP (· == '\n') s).trans List.splitOn_eq_splitOnP.symm

theorem intercalate_lines (s : List Char) : ['\n'].intercalate (lines s) = s := by
  rw [lines_eq_splitOn]
  exact List.intercalate_splitOn '\n'

theorem lines_intercalate {rows : List (List Char)} (hrows : rows ≠ [])
    (hfree : ∀ row ∈ rows, '\n' ∉ row) : lines (['\n'].intercalate rows) = rows := by
  rw [lines_eq_splitOn]
  exact List.splitOn_intercalate '\n' hfree hrows

theorem lines_ne_nil (s : List Char) : lines s ≠ [] :=
  pieces_ne_nil (· == '\n') s

/-- A letter in front of a text goes to its first line. -/
theorem lines_letter {c : Char} (hc : isBlank c = false) {rest first : List Char}
    {others : List (List Char)} (hrest : lines rest = first :: others) :
    lines (c :: rest) = (c :: first) :: others := by
  refine pieces_cons ?_ hrest
  apply beq_false_of_ne
  rintro rfl
  exact absurd hc (by decide)

theorem newline_notMem_of_mem_lines {s line : List Char} (hline : line ∈ lines s) :
    '\n' ∉ line := by
  intro hmem
  exact absurd (mem_of_mem_pieces hline hmem).2 (by simp)

theorem lines_of_notMem {s : List Char} (hfree : '\n' ∉ s) : lines s = [s] := by
  have hsingle := lines_intercalate (List.cons_ne_nil s []) (List.forall_mem_singleton.mpr hfree)
  rwa [List.intercalate_singleton] at hsingle

/-- A part of a text without line feeds stands in one of its lines. -/
theorem exists_infix_of_infix {part s : List Char} (hpart : part <:+: s) (hfree : '\n' ∉ part) :
    ∃ row ∈ lines s, part <:+: row := by
  obtain ⟨before, after, rfl⟩ := hpart
  obtain ⟨others, last, hbefore⟩ := exists_pieces_concat (· == '\n') before
  obtain ⟨first, later, hafter⟩ := List.exists_cons_of_ne_nil (lines_ne_nil after)
  have hfront := pieces_append hbefore (lines_of_notMem hfree)
  have hwhole : lines (before ++ part ++ after) = others ++ (last ++ part ++ first) :: later :=
    pieces_append hfront hafter
  refine ⟨last ++ part ++ first, ?_, List.infix_append _ _ _⟩
  rw [hwhole]
  exact List.mem_append_right _ List.mem_cons_self

theorem intercalate_append {α : Type} (sep : List α) {first second : List (List α)}
    (hfirst : first ≠ []) (hsecond : second ≠ []) :
    sep.intercalate (first ++ second) =
      sep.intercalate first ++ sep ++ sep.intercalate second := by
  induction first with
  | nil => exact absurd rfl hfirst
  | cons row rest ih =>
      rw [List.cons_append]
      by_cases hrest : rest = []
      · rw [hrest, List.nil_append, List.intercalate_cons_of_ne_nil hsecond,
          List.intercalate_singleton]
      · rw [List.intercalate_cons_of_ne_nil (List.append_ne_nil_of_left_ne_nil hrest second),
          ih hrest, List.intercalate_cons_of_ne_nil hrest]
        simp only [List.append_assoc]

theorem subset_intercalate {α : Type} (sep : List α) {row : List α} {rows : List (List α)}
    (hrow : row ∈ rows) : row ⊆ sep.intercalate rows := by
  induction rows with
  | nil => exact absurd hrow List.not_mem_nil
  | cons first rest ih =>
      by_cases hrest : rest = []
      · subst hrest
        rw [List.mem_singleton.mp hrow, List.intercalate_singleton]
        exact List.Subset.refl _
      · rw [List.intercalate_cons_of_ne_nil hrest]
        obtain rfl | hmem := List.mem_cons.mp hrow
        · exact List.subset_append_of_subset_left _ (List.subset_append_left _ _)
        · exact List.subset_append_of_subset_right _ (ih hmem)

/-! ## Words -/

theorem isBlank_of_isLineBreak {c : Char} (hc : Wire.isLineBreak c = true) :
    isBlank c = true := by
  simp only [Wire.isLineBreak, Bool.or_eq_true, beq_iff_eq] at hc
  obtain ((((((((rfl | rfl) | rfl) | rfl) | rfl) | rfl) | rfl) | rfl) | rfl) | rfl := hc <;> rfl

/-- A text without blanks. -/
def IsSolid (s : List Char) : Prop :=
  ∀ c ∈ s, isBlank c = false

theorem words_of_isSolid {s : List Char} (hs : IsSolid s) (hne : s ≠ []) : words s = [s] := by
  rw [words, pieces_eq_splitOnP, List.splitOnP_eq_singleton hs]
  simp [hne]

theorem isSolid_of_mem_words {s word : List Char} (hword : word ∈ words s) : IsSolid word :=
  fun _ hc => (mem_of_mem_pieces (List.mem_filter.mp hword).1 hc).2

/-- A blank parts the words before it from those behind it. -/
theorem words_append_blank (s : List Char) {c : Char} (hc : isBlank c = true) (t : List Char) :
    words (s ++ c :: t) = words s ++ words t := by
  rw [words, pieces_append_cut s hc, List.filter_append]
  rfl

theorem words_append_blanks (s : List Char) {tail : List Char}
    (htail : ∀ c ∈ tail, isBlank c = true) : words (s ++ tail) = words s := by
  induction tail generalizing s with
  | nil => rw [List.append_nil]
  | cons c rest ih =>
      obtain ⟨hc, hrest⟩ := List.forall_mem_cons.mp htail
      have hnone : words rest = words [] := ih [] hrest
      rw [words_append_blank s hc, hnone]
      exact List.append_nil _

theorem words_blanks_append {front : List Char} (hfront : ∀ c ∈ front, isBlank c = true)
    (s : List Char) : words (front ++ s) = words s := by
  induction front with
  | nil => rfl
  | cons c rest ih =>
      obtain ⟨hc, hrest⟩ := List.forall_mem_cons.mp hfront
      have hnone : words (c :: (rest ++ s)) = words (rest ++ s) :=
        words_append_blank [] hc (rest ++ s)
      rw [List.cons_append, hnone, ih hrest]

theorem words_append_of_head (s : List Char) {t : List Char}
    (ht : ∃ c ∈ t.head?, isBlank c = true) : words (s ++ t) = words s ++ words t := by
  obtain ⟨c, hhead, hc⟩ := ht
  obtain ⟨rest, rfl⟩ := List.head?_eq_some_iff.mp hhead
  have hfront : words (c :: rest) = words rest :=
    words_blanks_append (List.forall_mem_singleton.mpr hc) rest
  rw [words_append_blank s hc, hfront]

theorem words_append_of_last {s : List Char} (hs : ∃ c ∈ s.getLast?, isBlank c = true)
    (t : List Char) : words (s ++ t) = words s ++ words t := by
  obtain ⟨c, hlast, hc⟩ := hs
  obtain ⟨front, rfl⟩ := List.getLast?_eq_some_iff.mp hlast
  rw [List.append_assoc, List.singleton_append, words_append_blank front hc,
    words_append_blanks front (List.forall_mem_singleton.mpr hc)]

/-! ## Letters -/

/-- The characters of a text that are no blanks. -/
def letters (s : List Char) : List Char :=
  s.filter fun c => !isBlank c

@[simp]
theorem letters_append (s t : List Char) : letters (s ++ t) = letters s ++ letters t :=
  List.filter_append s t

theorem letters_cons_of_blank {c : Char} (hc : isBlank c = true) (s : List Char) :
    letters (c :: s) = letters s :=
  List.filter_cons_of_neg (by simp [hc])

@[simp]
theorem letters_spaces (n : Nat) : letters (List.replicate n ' ') = [] := by
  refine List.filter_eq_nil_iff.mpr fun c hc => ?_
  rw [List.eq_of_mem_replicate hc]
  decide

theorem letters_sublist {s t : List Char} (h : s.Sublist t) : (letters s).Sublist (letters t) :=
  h.filter _

theorem flatten_words (s : List Char) : (words s).flatten = letters s := by
  rw [words, List.flatten_filter_not_isEmpty, flatten_pieces, letters]

theorem letters_letters (s : List Char) : letters (letters s) = letters s := by
  simp [letters]

theorem letters_flatten_pieces (s : List Char) :
    letters (pieces isBlank s).flatten = letters s := by
  rw [flatten_pieces]
  exact letters_letters s

/-- Blanks between rows are no letters. -/
theorem letters_intercalate {c : Char} (hc : isBlank c = true) (rows : List (List Char)) :
    letters ([c].intercalate rows) = letters rows.flatten := by
  induction rows with
  | nil => rfl
  | cons row rest ih =>
      by_cases hrest : rest = []
      · rw [hrest, List.intercalate_singleton, List.flatten_singleton]
      · rw [List.intercalate_cons_of_ne_nil hrest, List.flatten_cons, letters_append,
          letters_append, letters_append, ih, letters_cons_of_blank hc]
        simp [letters]

theorem letters_flatten_lines (s : List Char) : letters (lines s).flatten = letters s := by
  rw [← letters_intercalate (show isBlank '\n' = true by decide), intercalate_lines]

end Parley.Text
