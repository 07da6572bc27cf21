import Mathlib.Data.List.Infix
import Parley.Proofs.Terminal.Tags

/-!
# Text that reads as itself

What a text with markup is read as has the characters that are shown of it.  A text is plain if
no tag is read in it, no backslash is taken from before a bracket, and no name is replaced by
its picture; it is read and shown as it is then.
-/

namespace Parley.Terminal

namespace Styled

theorem kept_append (s t : List Char) : kept (s ++ t) = kept s ++ kept t :=
  List.filter_append ..

theorem chars_ofChars (s : List Char) (style : Style) : (ofChars s style).chars = kept s := by
  have hlines : (ofChars s style).map Line.chars = Text.lines (kept s) := by
    rw [ofChars, List.map_map]
    exact List.map_id'' (fun line => Line.chars_ofChars line style) _
  rw [chars, hlines, Text.intercalate_lines]

theorem ofChars_ne_nil (s : List Char) (style : Style) : ofChars s style ≠ [] :=
  List.map_eq_nil_iff.not.mpr (Text.lines_ne_nil _)

/-- The rows of two texts with the last row of the one and the first of the other in one. -/
theorem intercalate_meet (sep : List Char) (before after : List (List Char)) (s t : List Char) :
    sep.intercalate (before ++ (s ++ t) :: after) =
      sep.intercalate (before ++ [s]) ++ sep.intercalate (t :: after) := by
  induction before with
  | nil =>
      cases after with
      | nil => simp
      | cons row rest => simp
  | cons row rest ih =>
      rw [List.cons_append, List.cons_append, List.intercalate_cons_of_ne_nil (by simp),
        List.intercalate_cons_of_ne_nil (by simp), ih]
      simp only [List.append_assoc]

theorem chars_append {first second : Styled} (hfirst : first ≠ []) (hsecond : second ≠ []) :
    (append first second).chars = first.chars ++ second.chars := by
  obtain ⟨before, last, rfl⟩ := (List.eq_nil_or_concat' first).resolve_left hfirst
  obtain ⟨next, rest, rfl⟩ := List.exists_cons_of_ne_nil hsecond
  have happend : append (before ++ [last]) (next :: rest) =
      before ++ (last ++ next) :: rest := by
    simp [append]
  rw [happend, chars, chars, chars, List.map_append, List.map_append, List.map_cons, List.map_cons,
    Line.chars_append, intercalate_meet]
  rfl

theorem append_ne_nil {first second : Styled} (hfirst : first ≠ []) :
    append first second ≠ [] := by
  obtain ⟨before, last, rfl⟩ := (List.eq_nil_or_concat' first).resolve_left hfirst
  cases second with
  | nil => simp [append]
  | cons next rest => simp [append]

theorem join_ne_nil {texts : List Styled} (htexts : ∀ text ∈ texts, text ≠ []) :
    join texts ≠ [] := by
  cases texts with
  | nil => exact List.cons_ne_nil _ _
  | cons text rest => exact append_ne_nil (htexts text List.mem_cons_self)

theorem chars_join {texts : List Styled} (htexts : ∀ text ∈ texts, text ≠ []) :
    (join texts).chars = texts.flatMap chars := by
  induction texts with
  | nil => rfl
  | cons text rest ih =>
      obtain ⟨htext, hrest⟩ := List.forall_mem_cons.mp htexts
      rw [join, chars_append htext (join_ne_nil hrest), ih hrest, List.flatMap_cons]

end Styled

namespace Markup

/-! ## Styled texts -/

theorem style_text (opened : List OpenStyle) (s : List Char) (rest : List Piece) :
    style opened (.text s :: rest) = (style opened rest).map fun texts =>
      Styled.ofChars (replacePictures (unescapeBrackets s)) (currentStyle opened) :: texts := rfl

/-- A tag changes what is open, or there is nothing for it to close. -/
theorem style_tag (opened : List OpenStyle) (position : Nat) (body : List Char)
    (rest : List Piece) :
    (∃ others, style opened (.tag position body :: rest) = style others rest) ∨
      ∃ error, style opened (.tag position body :: rest) = .error error := by
  rw [style.eq_def]
  dsimp only
  split
  · split
    · split
      · exact Or.inr ⟨_, rfl⟩
      · exact Or.inl ⟨_, rfl⟩
    · split
      · exact Or.inl ⟨_, rfl⟩
      · exact Or.inr ⟨_, rfl⟩
  · exact Or.inl ⟨_, rfl⟩

theorem flatMap_chars_of_style {opened : List OpenStyle} {parts : List Piece}
    {texts : List Styled} (hstyle : style opened parts = .ok texts) :
    texts.flatMap Styled.chars = Styled.kept (parts.flatMap Piece.shown) ∧
      ∀ text ∈ texts, text ≠ [] := by
  induction parts generalizing opened texts with
  | nil =>
      obtain rfl := Except.ok.inj hstyle
      exact ⟨rfl, fun _ hmem => absurd hmem List.not_mem_nil⟩
  | cons part rest ih =>
      cases part with
      | text s =>
          rw [style_text] at hstyle
          cases hrest : style opened rest with
          | error error =>
              rw [hrest] at hstyle
              cases hstyle
          | ok others =>
              rw [hrest] at hstyle
              obtain rfl := Except.ok.inj hstyle
              obtain ⟨hchars, hothers⟩ := ih hrest
              rw [List.flatMap_cons, List.flatMap_cons, Styled.kept_append, hchars,
                Styled.chars_ofChars]
              exact ⟨rfl, List.forall_mem_cons.mpr ⟨Styled.ofChars_ne_nil _ _, hothers⟩⟩
      | tag position body =>
          obtain ⟨others, hothers⟩ | ⟨error, herror⟩ := style_tag opened position body rest
          · exact ih (hothers.symm.trans hstyle)
          · exact absurd (herror.symm.trans hstyle) (by simp)

theorem exists_texts_of_read {s : String} {text : Styled} (hread : read s = .ok text) :
    ∃ texts, style [] (pieces s.toList) = .ok texts ∧ text = Styled.join texts := by
  rw [read] at hread
  cases hstyle : style [] (pieces s.toList) with
  | error error =>
      rw [hstyle] at hread
      cases hread
  | ok texts =>
      rw [hstyle] at hread
      exact ⟨texts, rfl, (Except.ok.inj hread).symm⟩

/-- What a text is read as has the characters that are shown of it. -/
theorem chars_of_read {s : String} {text : Styled} (hread : read s = .ok text) :
    text.chars = Styled.kept (shown s.toList) := by
  obtain ⟨texts, hstyle, rfl⟩ := exists_texts_of_read hread
  obtain ⟨hchars, htexts⟩ := flatMap_chars_of_style hstyle
  rw [Styled.chars_join htexts, hchars, shown]

/-! ## What is read at all -/

/-- A text without tags, other than those that backslashes make text of. -/
def IsUntagged (s : List Char) : Prop :=
  ∃ texts : List (List Char), pieces s = texts.map Piece.text

theorem style_texts (opened : List OpenStyle) (texts : List (List Char)) (rest : List Piece) :
    style opened (texts.map Piece.text ++ rest) = (style opened rest).map fun others =>
      (texts.map fun s =>
        Styled.ofChars (replacePictures (unescapeBrackets s)) (currentStyle opened)) ++ others := by
  induction texts with
  | nil =>
      rw [List.map_nil, List.nil_append]
      cases style opened rest <;> rfl
  | cons s more ih =>
      rw [List.map_cons, List.cons_append, style_text, ih]
      cases style opened rest <;> rfl

theorem IsUntagged.exists_read {s : String} (h : IsUntagged s.toList) :
    ∃ text, read s = .ok text := by
  obtain ⟨texts, htexts⟩ := h
  rw [read, htexts, ← List.append_nil (texts.map _), style_texts, style]
  exact ⟨_, rfl⟩

/-- A text that reads as itself. -/
structure IsPlain (s : List Char) : Prop where
  /-- It holds no tag, with or without backslashes before it. -/
  untagged : ∀ t, t <:+ s → escapedTag? t = none
  /-- No backslash is taken from before a bracket. -/
  unescaped : unescapeBrackets s = s
  /-- No name is replaced by its picture. -/
  unpictured : replacePictures s = s

instance (s : List Char) : Decidable (IsPlain s) :=
  decidable_of_iff
    ((∀ t ∈ s.tails, escapedTag? t = none) ∧ unescapeBrackets s = s ∧ replacePictures s = s)
    ⟨fun ⟨htails, hunescaped, hunpictured⟩ =>
      ⟨fun t ht => htails t ((List.mem_tails t s).mpr ht), hunescaped, hunpictured⟩,
      fun h => ⟨fun t ht => h.untagged t ((List.mem_tails t s).mp ht), h.unescaped, h.unpictured⟩⟩

theorem piecesAfter_of_untagged {s : List Char} (h : ∀ t, t <:+ s → escapedTag? t = none)
    (position : Nat) (text : List Char) :
    piecesAfter position text 0 s = flush (s.reverse ++ text) := by
  induction s generalizing position text with
  | nil => rfl
  | cons c rest ih =>
      rw [piecesAfter_char (h _ (List.suffix_refl _)),
        ih (fun t ht => h t (ht.trans (List.suffix_cons c rest))), List.reverse_cons,
        List.append_assoc]
      rfl

theorem IsPlain.shown {s : List Char} (h : IsPlain s) : shown s = s := by
  rw [Markup.shown, pieces, piecesAfter_of_untagged h.untagged, List.append_nil, shown_flush,
    List.reverse_reverse, h.unescaped, h.unpictured]

theorem IsNeutral.untagged_append_iff {s : List Char} (h : IsNeutral s) {t : List Char} :
    (∀ part, part <:+ s ++ t → escapedTag? part = none) ↔
      ∀ part, part <:+ t → escapedTag? part = none := by
  refine ⟨fun huntagged part hpart => huntagged part (hpart.trans (List.suffix_append s t)), ?_⟩
  intro huntagged
  induction s with
  | nil => exact huntagged
  | cons c rest ih =>
      intro part hpart
      obtain rfl | hpart := List.suffix_cons_iff.mp hpart
      · exact h.escapedTag?_eq_none t
      · exact ih h.tail part hpart

theorem IsNeutral.isPlain_append_iff {s : List Char} (h : IsNeutral s) {t : List Char} :
    IsPlain (s ++ t) ↔ IsPlain t := by
  have hunescaped : unescapeBrackets (s ++ t) = s ++ t ↔ unescapeBrackets t = t := by
    rw [h.unescapeBrackets_append, List.append_cancel_left_eq]
  have hunpictured : replacePictures (s ++ t) = s ++ t ↔ replacePictures t = t := by
    rw [replacePictures, h.replaceAfter_append, List.append_cancel_left_eq]
    rfl
  constructor
  · rintro ⟨huntagged, hbrackets, hnames⟩
    exact ⟨h.untagged_append_iff.mp huntagged, hunescaped.mp hbrackets, hunpictured.mp hnames⟩
  · rintro ⟨huntagged, hbrackets, hnames⟩
    exact ⟨h.untagged_append_iff.mpr huntagged, hunescaped.mpr hbrackets, hunpictured.mpr hnames⟩

theorem isPlain_nil : IsPlain [] where
  untagged := by
    intro t ht
    rw [List.suffix_nil.mp ht]
    rfl
  unescaped := rfl
  unpictured := rfl

theorem IsNeutral.isPlain {s : List Char} (h : IsNeutral s) : IsPlain s := by
  rw [← List.append_nil s, h.isPlain_append_iff]
  exact isPlain_nil

/-- A plain text in red is read. -/
theorem IsPlain.exists_read {s : List Char} (h : IsPlain s) (hlast : s.getLast? ≠ some '\\')
    {report : String} (hreport : report.toList = reddened s) : ∃ text, read report = .ok text := by
  have hstyle : ∃ texts, style [] (pieces report.toList) = .ok texts := by
    rw [hreport, pieces_reddened hlast, piecesAfter_of_untagged h.untagged, flush]
    split
    · exact ⟨_, rfl⟩
    · exact ⟨_, rfl⟩
  obtain ⟨texts, htexts⟩ := hstyle
  exact ⟨Styled.join texts, by rw [read, htexts]; rfl⟩

end Markup

end Parley.Terminal
