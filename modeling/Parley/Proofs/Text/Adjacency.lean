import Mathlib.Data.List.Forall2
import Parley.Proofs.Text.Spacing

/-!
# Neighbouring letters of wrapped text

All letters of a text are there after wrapping, in their order, and each of its line feeds
still ends a line.  Two letters that stood side by side do so afterwards, or have one line
feed between them; they have it only if their word is wider than a line.
-/

namespace Parley.Text

variable {width : Nat}

/-! ## Letters -/

theorem isBlank_of_gap {gap : Char} (hgap : gap = ' ' ∨ gap = '\n') : isBlank gap = true := by
  obtain rfl | rfl := hgap
  · rfl
  · rfl

theorem WrittenWord.letters_eq {word text : List Char} (h : WrittenWord width word text) :
    letters text = letters word := by
  cases h with
  | whole => rfl
  | broken _ _ hflatten => rw [letters_intercalate (by decide), hflatten]

theorem WrittenWords.letters_eq {rows : List (List Char)} {text : List Char}
    (h : WrittenWords width rows text) : letters text = letters rows.flatten := by
  induction h with
  | none => rfl
  | last hword => rw [hword.letters_eq, List.flatten_singleton]
  | cons hword hgap _ _ ih =>
      rw [letters_append, letters_cons_of_blank (isBlank_of_gap hgap), hword.letters_eq, ih,
        List.flatten_cons, letters_append]

theorem Rewritten.letters_eq {line block : List Char} (h : Rewritten width line block) :
    letters block = letters line := by
  obtain rfl | ⟨-, hwords⟩ := h
  · rfl
  · rw [hwords.letters_eq, flatten_words, letters_letters]

/-! ## Neighbours -/

/-- Whether two letters that were neighbours, with `before` and `after` around them, stand in
a text with nothing between them, or with a line feed if their word is too wide. -/
def StandsTogether (width : Nat) (word before : List Char) (a b : Char)
    (after text : List Char) : Prop :=
  ∃ front gap back, text = front ++ a :: (gap ++ b :: back) ∧
    letters front = letters before ∧ letters back = letters after ∧
    (gap = [] ∨ gap = ['\n'] ∧ width < cellLen word)

variable {word before after text : List Char} {a b : Char}

theorem standsTogether_joined {back : List Char} (hback : letters back = letters after) :
    StandsTogether width word before a b after (before ++ a :: b :: back) :=
  ⟨before, [], back, rfl, rfl, hback, Or.inl rfl⟩

theorem standsTogether_broken (hwide : width < cellLen word) {back : List Char}
    (hback : letters back = letters after) :
    StandsTogether width word before a b after (before ++ a :: '\n' :: b :: back) :=
  ⟨before, ['\n'], back, rfl, rfl, hback, Or.inr ⟨rfl, hwide⟩⟩

/-- What comes around a text makes no difference to the letters in it. -/
theorem StandsTogether.surround (h : StandsTogether width word before a b after text)
    {before' after' front' back' : List Char}
    (hbefore : letters before' = letters front' ++ letters before)
    (hafter : letters after' = letters after ++ letters back') :
    StandsTogether width word before' a b after' (front' ++ text ++ back') := by
  obtain ⟨front, gap, back, rfl, hfront, hback, hgap⟩ := h
  refine ⟨front' ++ front, gap, back ++ back', by simp, ?_, ?_, hgap⟩
  · rw [letters_append, hfront, hbefore]
  · rw [letters_append, hback, hafter]

theorem StandsTogether.later {pieces : List (List Char)}
    (h : StandsTogether width word before a b after (['\n'].intercalate pieces))
    (hpieces : pieces ≠ []) (piece : List Char) :
    StandsTogether width word (piece ++ before) a b after
      (['\n'].intercalate (piece :: pieces)) := by
  have htext : ['\n'].intercalate (piece :: pieces) =
      piece ++ ['\n'] ++ ['\n'].intercalate pieces ++ [] := by
    rw [List.append_nil]
    exact List.intercalate_cons_of_ne_nil hpieces
  rw [htext]
  apply h.surround
  · rw [letters_append, letters_append, letters_cons_of_blank (by decide)]
    exact congrArg (· ++ letters before) (List.append_nil (letters piece)).symm
  · exact (List.append_nil (letters after)).symm

theorem letters_append_newlines (s : List Char) (rows : List (List Char)) :
    letters (s ++ rows.flatMap fun row => '\n' :: row) = letters (s ++ rows.flatten) := by
  rw [← intercalate_newline, letters_intercalate (by decide), List.flatten_cons]

/-- Line feeds between pieces come between two neighbours only where a piece ends. -/
theorem standsTogether_intercalate (hwide : width < cellLen word) {pieces : List (List Char)}
    (hpieces : ∀ piece ∈ pieces, piece ≠ [])
    (hflatten : pieces.flatten = before ++ a :: b :: after) :
    StandsTogether width word before a b after (['\n'].intercalate pieces) := by
  induction pieces generalizing before with
  | nil => simp at hflatten
  | cons piece rest ih =>
      obtain ⟨-, hrest⟩ := List.forall_mem_cons.mp hpieces
      have hlater {middle : List Char} (hmiddle : rest.flatten = middle ++ a :: b :: after) :
          StandsTogether width word (piece ++ middle) a b after
            (['\n'].intercalate (piece :: rest)) := by
        apply (ih hrest hmiddle).later
        rintro rfl
        simp at hmiddle
      rw [List.flatten_cons] at hflatten
      -- the piece ends before the two letters, between them or after them
      obtain ⟨middle, rfl, hmiddle⟩ | ⟨middle, rfl, hmiddle⟩ :=
        List.append_eq_append_iff.mp hflatten
      · exact hlater hmiddle
      · match middle, hmiddle with
        | [], hmiddle =>
            have hbehind : rest.flatten = [] ++ a :: b :: after := hmiddle.symm
            simpa using hlater hbehind
        | [c], hmiddle =>
            obtain ⟨rfl, hflat⟩ := List.cons.inj hmiddle
            have hne : rest ≠ [] := by
              rintro rfl
              simp at hflat
            obtain ⟨next, others, rfl⟩ := List.exists_cons_of_ne_nil hne
            obtain ⟨d, tail, rfl⟩ := List.exists_cons_of_ne_nil (hrest next List.mem_cons_self)
            obtain ⟨rfl, hafter⟩ := List.cons.inj hflat
            have htext : ['\n'].intercalate ((before ++ [a]) :: (b :: tail) :: others) =
                before ++ a :: '\n' :: b :: (tail ++ others.flatMap fun row => '\n' :: row) := by
              rw [List.intercalate_cons_cons, intercalate_newline]
              simp
            rw [htext]
            apply standsTogether_broken hwide
            exact (letters_append_newlines tail others).trans (congrArg letters hafter.symm)
        | c :: d :: others, hmiddle =>
            obtain ⟨rfl, hflat⟩ := List.cons.inj hmiddle
            obtain ⟨rfl, hafter⟩ := List.cons.inj hflat
            rw [intercalate_newline, List.append_assoc]
            apply standsTogether_joined
            exact (letters_append_newlines others rest).trans (congrArg letters hafter.symm)

theorem WrittenWord.standsTogether (h : WrittenWord width (before ++ a :: b :: after) text) :
    StandsTogether width (before ++ a :: b :: after) before a b after text := by
  cases h with
  | whole => exact standsTogether_joined rfl
  | broken hwide hpieces hflatten => exact standsTogether_intercalate hwide hpieces hflatten

theorem WrittenWords.exists_head {word : List Char} {rest : List (List Char)}
    (h : WrittenWords width (word :: rest) text) :
    ∃ written back, text = written ++ back ∧ WrittenWord width word written ∧
      letters back = letters rest.flatten ∧
      (rest ≠ [] → ∃ gap others, back = gap :: others ∧ isBlank gap = true ∧
        WrittenWords width rest others) := by
  cases h with
  | last hword =>
      exact ⟨text, [], (List.append_nil text).symm, hword, rfl, fun hne => absurd rfl hne⟩
  | @cons _ written others _ gap hword hgap _ hothers =>
      have hblank := isBlank_of_gap hgap
      refine ⟨written, gap :: others, rfl, hword, ?_, fun _ => ⟨gap, others, rfl, hblank, hothers⟩⟩
      rw [letters_cons_of_blank hblank, hothers.letters_eq]

theorem WrittenWords.exists_written {first later : List (List Char)} {word : List Char}
    (h : WrittenWords width (first ++ word :: later) text) :
    ∃ front written back, text = front ++ written ++ back ∧ WrittenWord width word written ∧
      letters front = letters first.flatten ∧ letters back = letters later.flatten := by
  induction first generalizing text with
  | nil =>
      obtain ⟨written, back, rfl, hword, hback, -⟩ := h.exists_head
      exact ⟨[], written, back, rfl, hword, rfl, hback⟩
  | cons row rest ih =>
      obtain ⟨head, tail, rfl, hhead, -, hnext⟩ := h.exists_head
      obtain ⟨gap, others, rfl, hblank, hothers⟩ := hnext (by simp)
      obtain ⟨front, written, back, rfl, hword, hfront, hback⟩ := ih hothers
      refine ⟨head ++ gap :: front, written, back, by simp, hword, ?_, hback⟩
      rw [letters_append, letters_cons_of_blank hblank, hhead.letters_eq, hfront,
        List.flatten_cons, letters_append]

/-! ## Words and lines around neighbours -/

/-- The word that two neighbouring letters belong to. -/
def wordAround (before : List Char) (a b : Char) (after : List Char) : List Char :=
  (pieces isBlank before).getLastD [] ++ a :: b :: (pieces isBlank after).headD []

theorem Rewritten.standsTogether (ha : isBlank a = false) (hb : isBlank b = false)
    (h : Rewritten width (before ++ a :: b :: after) text) :
    StandsTogether width (wordAround before a b after) before a b after text := by
  obtain rfl | ⟨-, hwords⟩ := h
  · exact standsTogether_joined rfl
  · obtain ⟨others, last, hbefore⟩ := exists_pieces_concat isBlank before
    obtain ⟨first, later, hafter⟩ := List.exists_cons_of_ne_nil (pieces_ne_nil isBlank after)
    have hjoined := pieces_append hbefore (pieces_cons ha (pieces_cons hb hafter))
    have hline : words (before ++ a :: b :: after) =
        others.filter (fun piece => !piece.isEmpty) ++ (last ++ a :: b :: first) ::
          later.filter (fun piece => !piece.isEmpty) := by
      rw [words, hjoined, List.filter_append, List.filter_cons_of_pos (by simp)]
    have hword : wordAround before a b after = last ++ a :: b :: first := by
      rw [wordAround, hbefore, hafter]
      simp
    rw [hline] at hwords
    obtain ⟨front, written, back, rfl, hwritten, hfront, hback⟩ := hwords.exists_written
    rw [List.flatten_filter_not_isEmpty] at hfront hback
    rw [hword]
    refine hwritten.standsTogether.surround ?_ ?_
    · rw [hfront, ← letters_append, ← letters_flatten_pieces, hbefore, List.flatten_concat]
    · rw [hback, ← letters_append, ← letters_flatten_pieces, hafter, List.flatten_cons]

/-- The last line of a text ends in the same part of a word as the text. -/
theorem exists_last_line (s : List Char) :
    ∃ others last, lines s = others ++ [last] ∧
      letters s = letters others.flatten ++ letters last ∧
      (pieces isBlank s).getLastD [] = (pieces isBlank last).getLastD [] := by
  obtain ⟨others, last, hlines⟩ : ∃ others last, lines s = others ++ [last] :=
    exists_pieces_concat _ s
  have hs := intercalate_lines s
  refine ⟨others, last, hlines, ?_, ?_⟩
  · rw [← letters_flatten_lines, hlines, List.flatten_concat, letters_append]
  · rw [← hs, hlines]
    by_cases hothers : others = []
    · rw [hothers, List.nil_append, List.intercalate_singleton]
    · rw [intercalate_append _ hothers (List.cons_ne_nil last []), List.intercalate_singleton,
        List.append_assoc, List.singleton_append, pieces_append_cut _ (by decide)]
      obtain ⟨rest, piece, hlast⟩ := exists_pieces_concat isBlank last
      rw [hlast, ← List.append_assoc]
      simp

/-- The first line of a text begins with the same part of a word as the text. -/
theorem exists_first_line (s : List Char) :
    ∃ first others, lines s = first :: others ∧
      letters s = letters first ++ letters others.flatten ∧
      (pieces isBlank s).headD [] = (pieces isBlank first).headD [] := by
  obtain ⟨first, others, hlines⟩ := List.exists_cons_of_ne_nil (lines_ne_nil s)
  have hs := intercalate_lines s
  refine ⟨first, others, hlines, ?_, ?_⟩
  · rw [← letters_flatten_lines, hlines, List.flatten_cons, letters_append]
  · rw [← hs, hlines]
    by_cases hothers : others = []
    · rw [hothers, List.intercalate_singleton]
    · rw [List.intercalate_cons_of_ne_nil hothers, List.append_assoc, List.singleton_append,
        pieces_append_cut _ (by decide)]
      obtain ⟨piece, rest, hfirst⟩ := List.exists_cons_of_ne_nil (pieces_ne_nil isBlank first)
      rw [hfirst]
      rfl

/-! ## Wrapped text -/

theorem intercalate_flatMap {α β : Type} (sep : List β) {f : α → List (List β)}
    (hf : ∀ row, f row ≠ []) (rows : List α) :
    sep.intercalate (rows.flatMap f) =
      sep.intercalate (rows.map fun row => sep.intercalate (f row)) := by
  induction rows with
  | nil => rfl
  | cons row rest ih =>
      rw [List.flatMap_cons, List.map_cons]
      by_cases hrest : rest = []
      · rw [hrest, List.flatMap_nil, List.append_nil, List.map_nil, List.intercalate_singleton]
      · have hlater : rest.flatMap f ≠ [] := by
          obtain ⟨next, others, rfl⟩ := List.exists_cons_of_ne_nil hrest
          exact List.append_ne_nil_of_left_ne_nil (hf next) _
        rw [intercalate_append sep (hf row) hlater, ih,
          List.intercalate_cons_of_ne_nil (by simpa using hrest)]

/-- The lines of a text, each rewritten. -/
theorem toList_wrapText (s : String) (width : Int) :
    (wrapText s width).toList = ['\n'].intercalate ((lines s.toList).map fun line =>
      ['\n'].intercalate (wrapLine (lineWidth width) line)) := by
  rw [wrapText, String.toList_ofList, wrapLines]
  exact intercalate_flatMap ['\n'] (wrapLine_ne_nil (lineWidth width)) _

theorem letters_flatten_rewritten {rows blocks : List (List Char)}
    (h : List.Forall₂ (Rewritten width) rows blocks) :
    letters blocks.flatten = letters rows.flatten := by
  induction h with
  | nil => rfl
  | cons hblock _ ih =>
      rw [List.flatten_cons, List.flatten_cons, letters_append, letters_append,
        hblock.letters_eq, ih]

theorem rewritten_lines (width : Nat) (rows : List (List Char)) :
    List.Forall₂ (Rewritten width) rows
      (rows.map fun line => ['\n'].intercalate (wrapLine width line)) :=
  List.forall₂_map_right_iff.mpr (List.forall₂_same.mpr fun line _ => rewritten_wrapLine width line)

theorem exists_intercalate_append (first : List (List Char)) (row : List Char)
    (later : List (List Char)) :
    ∃ front back, ['\n'].intercalate (first ++ row :: later) = front ++ row ++ back ∧
      letters front = letters first.flatten ∧ letters back = letters later.flatten := by
  induction first with
  | nil =>
      refine ⟨[], later.flatMap fun next => '\n' :: next, ?_, rfl, ?_⟩
      · exact intercalate_newline row later
      · exact letters_append_newlines [] later
  | cons next rest ih =>
      obtain ⟨front, back, htext, hfront, hback⟩ := ih
      refine ⟨next ++ '\n' :: front, back, ?_, ?_, hback⟩
      · rw [List.cons_append, List.intercalate_cons_of_ne_nil (by simp), htext]
        simp
      · rw [letters_append, letters_cons_of_blank (by decide), hfront, List.flatten_cons,
          letters_append]

theorem standsTogether_wrapText {s : String} (width : Int)
    (hs : s.toList = before ++ a :: b :: after) (ha : isBlank a = false)
    (hb : isBlank b = false) :
    StandsTogether (lineWidth width) (wordAround before a b after) before a b after
      (wrapText s width).toList := by
  obtain ⟨others, last, hlast, hbefore, hleft⟩ := exists_last_line before
  obtain ⟨first, later, hfirst, hafter, hright⟩ := exists_first_line after
  have hlines : lines s.toList = others ++ (last ++ a :: b :: first) :: later := by
    rw [hs]
    exact pieces_append hlast (lines_letter ha (lines_letter hb hfirst))
  have hword : wordAround before a b after = wordAround last a b first := by
    rw [wordAround, wordAround, hleft, hright]
  have hline := rewritten_wrapLine (lineWidth width) (last ++ a :: b :: first)
  rw [toList_wrapText, hlines, List.map_append, List.map_cons, hword]
  obtain ⟨front, back, htext, hfront, hback⟩ := exists_intercalate_append
    (others.map fun line => ['\n'].intercalate (wrapLine (lineWidth width) line))
    (['\n'].intercalate (wrapLine (lineWidth width) (last ++ a :: b :: first)))
    (later.map fun line => ['\n'].intercalate (wrapLine (lineWidth width) line))
  rw [letters_flatten_rewritten (rewritten_lines _ _)] at hfront hback
  rw [htext]
  refine (hline.standsTogether ha hb).surround ?_ ?_
  · rw [hbefore, hfront]
  · rw [hafter, hback]

/-- What wrapping does to a text, at any width: its letters stay, in their order; each of its
lines stays or has its words written anew; and its neighbours stay neighbours, but for line
feeds within words that are wider than a line. -/
theorem wrapText_keeps (s : String) (width : Int) :
    letters (wrapText s width).toList = letters s.toList ∧
      (∃ blocks, List.Forall₂ (Rewritten (lineWidth width)) (lines s.toList) blocks ∧
        (wrapText s width).toList = ['\n'].intercalate blocks) ∧
      ∀ before a b after, s.toList = before ++ a :: b :: after →
        isBlank a = false → isBlank b = false →
        StandsTogether (lineWidth width) (wordAround before a b after) before a b after
          (wrapText s width).toList := by
  have hblocks := rewritten_lines (lineWidth width) (lines s.toList)
  refine ⟨?_, ⟨_, hblocks, toList_wrapText s width⟩, ?_⟩
  · rw [toList_wrapText, letters_intercalate (by decide), letters_flatten_rewritten hblocks,
      letters_flatten_lines]
  · intro before a b after hs ha hb
    exact standsTogether_wrapText width hs ha hb

/-- Two letters of a word that is too wide. -/
theorem wrapText_keeps_broken :
    "go gather".toList = "go gat".toList ++ 'h' :: 'e' :: ['r'] ∧
      isBlank 'h' = false ∧ isBlank 'e' = false ∧
      wrapText "go gather" 4 = "go\ngath\ner" ∧
      StandsTogether 4 "gather".toList "go gat".toList 'h' 'e' ['r']
        (wrapText "go gather" 4).toList := by
  refine ⟨by decide, by decide, by decide, by decide +kernel, ?_⟩
  exact (wrapText_keeps "go gather" 4).2.2 "go gat".toList 'h' 'e' ['r'] (by decide) (by decide)
    (by decide)

end Parley.Text
