import Parley.Proofs.Terminal.Lines
import Parley.Proofs.Text.Chopping

/-!
# Where lines are broken

A text is broken before words, and inside words that are too wide for a line of their own.  So
each of its parts fits the width but for the blanks at its end, and the parts make up the text.
The blanks of the text are spaces, it holds no joiner, and the width is that of the widest
character at least.
-/

namespace Parley.Terminal.Line

open Text (isBlank dropTailWhile cellLen joiner)

/-! ## Words with blanks around them -/

/-- Words that make up a text: each has a letter, and blanks come between it and the next. -/
structure IsSpaced (words : List (List Char)) : Prop where
  letter : ∀ word ∈ words, ∃ c ∈ word, isBlank c = false
  blank : ∀ word ∈ words.dropLast, ∃ c ∈ word.getLast?, isBlank c = true

theorem isSpaced_nil : IsSpaced [] :=
  ⟨fun _ hmem => absurd hmem List.not_mem_nil, fun _ hmem => absurd hmem List.not_mem_nil⟩

theorem isSpaced_singleton {word : List Char} (hletter : ∃ c ∈ word, isBlank c = false) :
    IsSpaced [word] :=
  ⟨List.forall_mem_singleton.mpr hletter, fun _ hmem => absurd hmem List.not_mem_nil⟩

theorem IsSpaced.cons {word : List Char} {words : List (List Char)} (h : IsSpaced words)
    (hletter : ∃ c ∈ word, isBlank c = false) (hblank : ∃ c ∈ word.getLast?, isBlank c = true) :
    IsSpaced (word :: words) := by
  refine ⟨List.forall_mem_cons.mpr ⟨hletter, h.letter⟩, ?_⟩
  cases words with
  | nil => exact fun _ hmem => absurd hmem List.not_mem_nil
  | cons next rest => exact List.forall_mem_cons.mpr ⟨hblank, h.blank⟩

theorem IsSpaced.tail {word : List Char} {words : List (List Char)}
    (h : IsSpaced (word :: words)) : IsSpaced words := by
  refine ⟨fun other hother => h.letter other (List.mem_cons_of_mem word hother), ?_⟩
  cases words with
  | nil => exact fun _ hmem => absurd hmem List.not_mem_nil
  | cons next rest => exact fun other hother => h.blank other (List.mem_cons_of_mem word hother)

/-- What the scan knows of the word under construction. -/
structure Scanned (phase : WordPhase) (word : List Char) : Prop where
  letter : phase ≠ .lead → ∃ c ∈ word, isBlank c = false
  blank : phase = .tail → ∃ c ∈ word.head?, isBlank c = true

theorem isSpaced_spacedWordsAfter {phase : WordPhase} {word : List Char} (rest : List Char)
    (h : Scanned phase word) : IsSpaced (spacedWordsAfter phase word rest) := by
  fun_induction spacedWordsAfter phase word rest with
  | case1 => exact isSpaced_nil
  | case2 phase word hphase =>
      obtain ⟨c, hc, hletter⟩ := h.letter hphase
      exact isSpaced_singleton ⟨c, List.mem_reverse.mpr hc, hletter⟩
  | case3 phase word c rest hblank ih =>
      apply ih
      refine ⟨fun hphase => ?_, fun _ => ⟨c, rfl, hblank⟩⟩
      have hbegun : phase ≠ .lead := by
        rintro rfl
        exact hphase rfl
      obtain ⟨d, hd, hletter⟩ := h.letter hbegun
      exact ⟨d, List.mem_cons_of_mem c hd, hletter⟩
  | case4 word c rest hsolid ih =>
      rw [Bool.not_eq_true] at hsolid
      have hnext : Scanned .body [c] :=
        ⟨fun _ => ⟨c, List.mem_cons_self, hsolid⟩, fun htail => nomatch htail⟩
      obtain ⟨d, hd, hletter⟩ := h.letter (by decide)
      apply (ih hnext).cons ⟨d, List.mem_reverse.mpr hd, hletter⟩
      rw [List.getLast?_reverse]
      exact h.blank rfl
  | case5 phase word c rest hsolid hphase ih =>
      rw [Bool.not_eq_true] at hsolid
      exact ih ⟨fun _ => ⟨c, List.mem_cons_self, hsolid⟩, fun htail => nomatch htail⟩

/-- The words are the text, unless it has no letter. -/
theorem flatten_spacedWordsAfter (phase : WordPhase) (word rest : List Char) :
    (spacedWordsAfter phase word rest).flatten = word.reverse ++ rest ∨
      phase = .lead ∧ spacedWordsAfter phase word rest = [] ∧ ∀ c ∈ rest, isBlank c = true := by
  fun_induction spacedWordsAfter phase word rest with
  | case1 => exact Or.inr ⟨rfl, rfl, fun _ hmem => absurd hmem List.not_mem_nil⟩
  | case2 phase word hphase => exact Or.inl (List.append_nil _ ▸ List.flatten_singleton)
  | case3 phase word c rest hblank ih =>
      obtain hwhole | ⟨hphase, hnone, hrest⟩ := ih
      · rw [hwhole, List.reverse_cons, List.append_assoc]
        exact Or.inl rfl
      · have hlead : phase = .lead := by
          by_contra hbegun
          rw [if_neg hbegun] at hphase
          cases hphase
        exact Or.inr ⟨hlead, hnone, List.forall_mem_cons.mpr ⟨hblank, hrest⟩⟩
  | case4 word c rest hsolid ih =>
      obtain hwhole | ⟨hphase, -⟩ := ih
      · rw [List.flatten_cons, hwhole]
        exact Or.inl rfl
      · cases hphase
  | case5 phase word c rest hsolid hphase ih =>
      obtain hwhole | ⟨hlead, -⟩ := ih
      · rw [hwhole, List.reverse_cons, List.append_assoc]
        exact Or.inl rfl
      · cases hlead

theorem isSpaced_spacedWords (text : List Char) : IsSpaced (spacedWords text) :=
  isSpaced_spacedWordsAfter text ⟨fun hlead => absurd rfl hlead, fun htail => nomatch htail⟩

theorem flatten_spacedWords (text : List Char) :
    (spacedWords text).flatten = text ∨ spacedWords text = [] ∧ ∀ c ∈ text, isBlank c = true := by
  obtain hwhole | ⟨-, hnone, hblank⟩ := flatten_spacedWordsAfter .lead [] text
  · exact Or.inl hwhole
  · exact Or.inr ⟨hnone, hblank⟩

/-! ## Parts -/

/-- Cuts a text at ascending places, of which `done` characters are gone. -/
def cutsAfter (done : Nat) (s : List Char) : List Nat → List (List Char)
  | [] => [s]
  | place :: rest => s.take (place - done) :: cutsAfter place (s.drop (place - done)) rest

theorem flatten_cutsAfter (done : Nat) (s : List Char) (places : List Nat) :
    (cutsAfter done s places).flatten = s := by
  induction places generalizing done s with
  | nil => exact List.flatten_singleton
  | cons place rest ih => rw [cutsAfter, List.flatten_cons, ih, List.take_append_drop]

theorem cutsAfter_cons (done : Nat) (s t : List Char) (places : List Nat) :
    cutsAfter done (s ++ t) ((done + s.length) :: places) =
      s :: cutsAfter (done + s.length) t places := by
  rw [cutsAfter, Nat.add_sub_cancel_left, List.take_left, List.drop_left]

/-- Whether a text fits a width without the blanks at its end. -/
def FitsTrimmed (width : Nat) (s : List Char) : Prop :=
  cellLen (dropTailWhile isBlank s) ≤ width

theorem fitsTrimmed_of_le {width : Nat} {s : List Char} (hs : cellLen s ≤ width) :
    FitsTrimmed width s := by
  obtain ⟨tail, htail⟩ := Text.dropTailWhile_prefix isBlank s
  have hle := Text.cellLen_le_append (dropTailWhile isBlank s) tail
  rw [htail] at hle
  exact Nat.le_trans hle hs

/-- A text in which no character is swallowed and spaces are the only blanks. -/
structure IsPlainText (s : List Char) : Prop where
  joiner : joiner ∉ s
  blank : ∀ c ∈ s, isBlank c = true → c = ' '

theorem IsPlainText.of_subset {s t : List Char} (h : IsPlainText s) (hsub : t ⊆ s) :
    IsPlainText t :=
  ⟨fun hmem => h.joiner (hsub hmem), fun c hc => h.blank c (hsub hc)⟩

/-- A space parts what comes before from what comes after. -/
theorem cellLen_append_of_open {s : List Char} (hs : joiner ∉ s)
    (hopen : ∀ c ∈ s.getLast?, c = ' ') (t : List Char) :
    cellLen (s ++ t) = cellLen s + cellLen t := by
  obtain rfl | ⟨front, c, rfl⟩ := List.eq_nil_or_concat' s
  · exact (Nat.zero_add _).symm
  · have hspace : c = ' ' := hopen c (List.getLast?_concat ..)
    subst hspace
    have hfront : joiner ∉ front := fun hmem => hs (List.mem_append_left _ hmem)
    rw [List.append_assoc, Text.cellLen_append_space hfront, List.singleton_append,
      Text.cellLen_append_space hfront]
    rfl

variable {width : Nat}

/-- The places inside a word cut off pieces that fit, and leave the last one. -/
theorem cutsAfter_foldBreaks {pieces : List (List Char)} (hne : pieces ≠ [])
    (hpieces : ∀ piece ∈ pieces, cellLen piece ≤ width) {before : List Char}
    (hbefore : FitsTrimmed width before) (done : Nat) (after : List Char) (places : List Nat) :
    ∃ front last start,
      cutsAfter done (before ++ (pieces.flatten ++ after))
          ((foldBreaks (done + before.length) pieces).1 ++ places) =
        front ++ cutsAfter start (last ++ after) places ∧
      (∀ part ∈ front, FitsTrimmed width part) ∧
      start + last.length = done + before.length + pieces.flatten.length ∧
      (foldBreaks (done + before.length) pieces).2 = cellLen last ∧
      cellLen last ≤ width ∧ last <:+ pieces.flatten := by
  induction pieces generalizing before done with
  | nil => exact absurd rfl hne
  | cons piece rest ih =>
      obtain ⟨hpiece, hrest⟩ := List.forall_mem_cons.mp hpieces
      have hfits := fitsTrimmed_of_le hpiece
      by_cases hlast : rest = []
      · subst hlast
        rw [foldBreaks, List.flatten_singleton]
        by_cases hstart : done + before.length = 0
        · rw [if_pos hstart]
          obtain ⟨rfl, hnone⟩ := Nat.add_eq_zero_iff.mp hstart
          obtain rfl := List.length_eq_zero_iff.mp hnone
          exact ⟨[], piece, 0, rfl, fun _ hmem => absurd hmem List.not_mem_nil, rfl, rfl, hpiece,
            List.suffix_refl _⟩
        · rw [if_neg hstart, List.singleton_append, cutsAfter_cons]
          exact ⟨[before], piece, _, rfl, List.forall_mem_singleton.mpr hbefore, rfl, rfl, hpiece,
            List.suffix_refl _⟩
      · obtain ⟨front, last, start, hcuts, hfront, hplace, hcells, hnarrow, hsuffix⟩ :=
          ih hlast hrest hfits (done + before.length)
        have hfold : foldBreaks (done + before.length) (piece :: rest) =
            ((if done + before.length = 0 then
                (foldBreaks (done + before.length + piece.length) rest).1
              else (done + before.length) ::
                (foldBreaks (done + before.length + piece.length) rest).1),
              (foldBreaks (done + before.length + piece.length) rest).2) :=
          foldBreaks.eq_3 _ _ _ hlast
        have hsum : done + before.length + piece.length + rest.flatten.length =
            done + before.length + (piece :: rest).flatten.length := by
          rw [List.flatten_cons, List.length_append, Nat.add_assoc]
        have hend : last <:+ (piece :: rest).flatten := by
          rw [List.flatten_cons]
          exact hsuffix.trans (List.suffix_append _ _)
        rw [hfold, List.flatten_cons, List.append_assoc]
        by_cases hstart : done + before.length = 0
        · rw [if_pos hstart]
          obtain ⟨rfl, hnone⟩ := Nat.add_eq_zero_iff.mp hstart
          obtain rfl := List.length_eq_zero_iff.mp hnone
          exact ⟨front, last, start, hcuts, hfront, hplace.trans hsum, hcells, hnarrow, hend⟩
        · rw [if_neg hstart, List.cons_append, cutsAfter_cons, hcuts]
          exact ⟨before :: front, last, start, rfl, List.forall_mem_cons.mpr ⟨hbefore, hfront⟩,
            hplace.trans hsum, hcells, hnarrow, hend⟩

/-- A word that is too wide leaves the last one of its pieces to go on with. -/
theorem cutsAfter_chop (hwidth : 2 ≤ width) {word : List Char} (hjoiner : joiner ∉ word)
    (hcells : 0 < cellLen word) {before : List Char} (hbefore : FitsTrimmed width before)
    (done : Nat) (after : List Char) (places : List Nat) :
    ∃ front last start,
      cutsAfter done (before ++ (word ++ after))
          ((foldBreaks (done + before.length) (Text.chop width word)).1 ++ places) =
        front ++ cutsAfter start (last ++ after) places ∧
      (∀ part ∈ front, FitsTrimmed width part) ∧
      start + last.length = done + before.length + word.length ∧
      (foldBreaks (done + before.length) (Text.chop width word)).2 = cellLen last ∧
      cellLen last ≤ width ∧ last <:+ word := by
  have hflatten := Text.flatten_chop hwidth hjoiner hcells
  have hne : Text.chop width word ≠ [] := by
    intro hnil
    rw [hnil] at hflatten
    rw [← hflatten] at hcells
    exact absurd hcells (by decide)
  have hcuts := cutsAfter_foldBreaks hne (Text.cellLen_le_of_mem_chop hwidth hjoiner) hbefore done
    after places
  rwa [hflatten] at hcuts

section Spaced

variable {word : List Char} {rest : List (List Char)} (hspaced : IsSpaced (word :: rest))
include hspaced

theorem IsSpaced.trimmed_ne_nil : dropTailWhile isBlank word ≠ [] := by
  obtain ⟨c, hc, hsolid⟩ := hspaced.letter word List.mem_cons_self
  intro hnil
  exact absurd (Text.dropTailWhile_eq_nil_iff.mp hnil c hc) (ne_true_of_eq_false hsolid)

/-- A space comes between a word and the next. -/
theorem IsSpaced.last_eq_space (hword : ∀ c ∈ word, isBlank c = true → c = ' ')
    (hrest : rest ≠ []) : ∀ c ∈ word.getLast?, c = ' ' := by
  intro c hc
  obtain ⟨next, others, rfl⟩ := List.exists_cons_of_ne_nil hrest
  obtain ⟨d, hd, hblank⟩ := hspaced.blank word List.mem_cons_self
  obtain rfl : c = d := Option.some.inj (hc.symm.trans hd)
  exact hword c (List.mem_of_getLast? hd) hblank

end Spaced

/-- The part under construction ends in a space before the next word, so its cells and those of
the word add up. -/
theorem fits_of_mem_cutsAfter (hwidth : 2 ≤ width) {words : List (List Char)}
    (hspaced : IsSpaced words) {part : List Char} (hplain : IsPlainText (part ++ words.flatten))
    (hfits : FitsTrimmed width part) (hopen : words ≠ [] → ∀ c ∈ part.getLast?, c = ' ')
    (done : Nat) :
    ∀ cut ∈ cutsAfter done (part ++ words.flatten)
        (breaksAfter .fold width (done + part.length) (cellLen part) words),
      FitsTrimmed width cut := by
  induction words generalizing part done with
  | nil =>
      rw [breaksAfter, cutsAfter, List.flatten_nil, List.append_nil]
      exact List.forall_mem_singleton.mpr hfits
  | cons word rest ih =>
      rw [List.flatten_cons] at hplain ⊢
      have hletter := hspaced.trimmed_ne_nil
      have hpart : joiner ∉ part := fun hmem => hplain.joiner (List.mem_append_left _ hmem)
      have hword : IsPlainText (word ++ rest.flatten) :=
        hplain.of_subset (List.subset_append_right _ _)
      have hjoiner : joiner ∉ word := fun hmem => hword.joiner (List.mem_append_left _ hmem)
      have hnext := hspaced.last_eq_space fun c hc => hword.blank c (List.mem_append_left _ hc)
      have hsum := cellLen_append_of_open hpart (hopen (List.cons_ne_nil _ _))
      rw [breaksAfter]
      dsimp only
      split
      case isTrue hroom =>
          -- the word goes into the same part
          have hlonger : FitsTrimmed width (part ++ word) := by
            rw [FitsTrimmed, Text.dropTailWhile_append_of_ne_nil _ hletter, hsum]
            exact hroom
          have hlast : rest ≠ [] → ∀ c ∈ (part ++ word).getLast?, c = ' ' := by
            intro hne c hc
            have hwordNe : word ≠ [] := by
              rintro rfl
              exact hletter rfl
            rw [List.getLast?_append_of_ne_nil _ hwordNe] at hc
            exact hnext hne c hc
          have hcuts := ih hspaced.tail (by rwa [List.append_assoc]) hlonger hlast done
          rw [hsum, List.length_append, List.append_assoc, ← Nat.add_assoc] at hcuts
          exact hcuts
      case isFalse hfull =>
          split
          case isTrue hwide =>
              -- the word is too wide for any part
              have hcells : 0 < cellLen word := by
                obtain ⟨tail, htail⟩ := Text.dropTailWhile_prefix isBlank word
                have hle := Text.cellLen_le_append (dropTailWhile isBlank word) tail
                rw [htail] at hle
                omega
              obtain ⟨front, last, start, hcuts, hfront, hplace, hlastCells, hnarrow, hsuffix⟩ :=
                cutsAfter_chop hwidth hjoiner hcells hfits done rest.flatten
                  (breaksAfter .fold width (done + part.length + word.length)
                    (foldBreaks (done + part.length) (Text.chop width word)).2 rest)
              rw [hcuts, List.forall_mem_append]
              refine ⟨hfront, ?_⟩
              rw [hlastCells, ← hplace]
              apply ih hspaced.tail _ (fitsTrimmed_of_le hnarrow)
              · intro hrest c hc
                obtain ⟨earlier, hearlier⟩ := hsuffix
                apply hnext hrest c
                rw [← hearlier, List.getLast?_append, Option.mem_def.mp hc]
                rfl
              · apply hword.of_subset
                intro c hc
                obtain hlast | hrest := List.mem_append.mp hc
                · exact List.mem_append_left _ (hsuffix.subset hlast)
                · exact List.mem_append_right _ hrest
          case isFalse hnarrow =>
              -- the word starts the next part
              have hstarted : ¬(cellLen part = 0 || done + part.length = 0) = true := by
                rw [Bool.or_eq_true, decide_eq_true_eq, decide_eq_true_eq]
                rintro (hnone | hstart)
                · omega
                · have hempty : part = [] := List.length_eq_zero_iff.mp (by omega)
                  rw [hempty] at hfull
                  have hzero : cellLen [] = 0 := rfl
                  omega
              rw [if_neg hstarted, cutsAfter_cons]
              refine List.forall_mem_cons.mpr ⟨hfits, ?_⟩
              exact ih hspaced.tail hword (Nat.not_lt.mp hnarrow) hnext _

/-- The parts of a text fit the width but for the blanks at their ends. -/
theorem fits_of_mem_cuts (hwidth : 2 ≤ width) {text : List Char} (hplain : IsPlainText text) :
    ∀ cut ∈ cutsAfter 0 text (breaks .fold width text), FitsTrimmed width cut := by
  have hnothing : FitsTrimmed width [] := Nat.zero_le width
  obtain hwhole | ⟨hnone, hblank⟩ := flatten_spacedWords text
  · have hcuts := fits_of_mem_cutsAfter hwidth (isSpaced_spacedWords text)
      (hplain.of_subset (by rw [hwhole]; exact List.Subset.refl _) : IsPlainText ([] ++ _))
      hnothing (fun _ c hc => nomatch hc) 0
    rw [hwhole] at hcuts
    exact hcuts
  · rw [breaks, hnone, breaksAfter, cutsAfter]
    refine List.forall_mem_singleton.mpr ?_
    rw [FitsTrimmed, Text.dropTailWhile_eq_nil_iff.mpr hblank]
    exact Nat.zero_le width

end Parley.Terminal.Line
