import Parley.Proofs.Terminal.Pictures
import Parley.Proofs.Terminal.Reading

/-!
# Text that is shown

The characters that mean something in markup are the brackets, the backslash and the colon.
What is shown of a text never has more of them than the text: none comes in with a picture, and
every tag, escape and name of a picture loses some.  So a text that does not read as itself is
shown with fewer of them.
-/

namespace Parley.Terminal.Markup

/-! ## Lost marks -/

/-- The number of characters of a text that mean something in markup. -/
def markCount (s : List Char) : Nat :=
  s.countP isMark

@[simp]
theorem markCount_append (s t : List Char) : markCount (s ++ t) = markCount s + markCount t :=
  List.countP_append

theorem markCount_cons (c : Char) (s : List Char) :
    markCount (c :: s) = markCount [c] + markCount s :=
  markCount_append [c] s

theorem markCount_reverse (s : List Char) : markCount s.reverse = markCount s :=
  List.countP_reverse

theorem markCount_le_of_sublist {s t : List Char} (h : s.Sublist t) : markCount s ≤ markCount t :=
  h.countP_le

/-- Marks are no blanks. -/
theorem markCount_letters (s : List Char) : markCount (Text.letters s) = markCount s := by
  have hletter {c : Char} (hc : isMark c = true) : Text.isBlank c = false := by
    simp only [isMark, Bool.or_eq_true, beq_iff_eq] at hc
    obtain ((rfl | rfl) | rfl) | rfl := hc <;> rfl
  rw [markCount, Text.letters, List.countP_filter]
  refine List.countP_congr fun c _ => ?_
  rw [Bool.and_eq_true, Bool.not_eq_true']
  exact ⟨And.left, fun hc => ⟨hc, hletter hc⟩⟩

theorem IsPicture.markCount {s : List Char} (h : IsPicture s) : markCount s = 0 := by
  refine List.countP_eq_zero.mpr fun c hc hmark => ?_
  have hpictorial := h.pictorial c hc
  rw [isPictorial, hmark] at hpictorial
  exact absurd hpictorial (by simp)

/-- Whether one text is another, or has fewer marks. -/
def IsLessened (s t : List Char) : Prop :=
  s = t ∨ markCount s < markCount t

theorem IsLessened.le {s t : List Char} (h : IsLessened s t) : markCount s ≤ markCount t := by
  obtain rfl | hlt := h
  · exact Nat.le_of_eq rfl
  · exact Nat.le_of_lt hlt

theorem IsLessened.cons {s t : List Char} (h : IsLessened s t) (c : Char) :
    IsLessened (c :: s) (c :: t) := by
  obtain rfl | hlt := h
  · exact Or.inl rfl
  · refine Or.inr ?_
    rw [markCount_cons, markCount_cons c t]
    exact Nat.add_lt_add_left hlt _

theorem isLessened_unescapeBrackets (s : List Char) : IsLessened (unescapeBrackets s) s := by
  fun_induction unescapeBrackets s with
  | case1 => exact Or.inl rfl
  | case2 rest ih =>
      have hslash : markCount ['\\'] = 1 := rfl
      have hle := ih.le
      refine Or.inr ?_
      rw [markCount_cons, markCount_cons '\\', markCount_cons '[' rest]
      omega
  | case3 c rest _ ih => exact ih.cons c

theorem exists_of_colonName? {rest name : List Char} (hname : colonName? rest = some name) :
    ∃ after, rest = name ++ ':' :: after := by
  rw [colonName?] at hname
  split at hname
  case isTrue hcolon =>
      obtain rfl := Option.some.inj hname
      rw [Text.drop_length_takeWhile] at hcolon
      obtain ⟨after, hafter⟩ := List.head?_eq_some_iff.mp hcolon
      exact ⟨after, by rw [← hafter, List.takeWhile_append_dropWhile]⟩
  case isFalse => cases hname

theorem isLessened_replaceAfter (keep skip : Nat) (s : List Char) :
    IsLessened (replaceAfter keep skip s) (s.drop skip) := by
  induction s generalizing keep skip with
  | nil => exact Or.inl (by rw [replaceAfter, List.drop_nil])
  | cons c rest ih =>
      cases skip with
      | succ more => exact ih 0 more
      | zero =>
          cases keep with
          | succ more => exact (ih more 0).cons c
          | zero =>
              rw [replaceAfter, List.drop_zero]
              split
              case h_1 name hname =>
                  split
                  case h_1 shown hshown =>
                      have hc : c = ':' := by
                        by_contra hc
                        rw [if_neg hc] at hname
                        cases hname
                      rw [if_pos hc] at hname
                      obtain ⟨after, rfl⟩ := exists_of_colonName? hname
                      have hnone := (isPicture_of_namedPicture? hshown).markCount
                      have hdrop : (name ++ ':' :: after).drop (name.length + 1) = after := by simp
                      have hafter := (ih 0 (name.length + 1)).le
                      have hcolon : markCount [':'] = 1 := rfl
                      refine Or.inr ?_
                      rw [hdrop] at hafter
                      rw [hc, markCount_append, hnone, markCount_cons, markCount_append,
                        markCount_cons _ after, hcolon]
                      omega
                  case h_2 => exact (ih _ 0).cons c
              case h_2 => exact (ih 0 0).cons c

/-- The characters of a part before escapes and pictures are replaced. -/
def Piece.chars : Piece → List Char
  | .text s => s
  | .tag _ _ => []

theorem isLessened_shown (part : Piece) : IsLessened part.shown part.chars := by
  cases part with
  | text s =>
      obtain hpictures | hlost := isLessened_replaceAfter 0 0 (unescapeBrackets s)
      · rw [IsLessened, Piece.shown, replacePictures, hpictures]
        exact isLessened_unescapeBrackets s
      · exact Or.inr (Nat.lt_of_lt_of_le hlost (isLessened_unescapeBrackets s).le)
  | tag position body => exact Or.inl rfl

theorem markCount_shown_le (parts : List Piece) :
    markCount (parts.flatMap Piece.shown) ≤ markCount (parts.flatMap Piece.chars) := by
  induction parts with
  | nil => exact Nat.le_of_eq rfl
  | cons part rest ih =>
      rw [List.flatMap_cons, List.flatMap_cons, markCount_append, markCount_append]
      exact Nat.add_le_add (isLessened_shown part).le ih

theorem flatMap_chars_flush (text : List Char) :
    (flush text).flatMap Piece.chars = text.reverse := by
  rw [flush]
  split
  case isTrue hempty => rw [List.isEmpty_iff.mp hempty]; rfl
  case isFalse => exact List.append_nil _

theorem markCount_replicate (n : Nat) : markCount (List.replicate n '\\') = n :=
  List.countP_replicate.trans (if_pos rfl)

theorem markCount_brackets (body rest : List Char) :
    markCount ('[' :: (body ++ ']' :: rest)) = markCount body + 2 + markCount rest := by
  have hopen : markCount ['['] = 1 := rfl
  have hclose : markCount [']'] = 1 := rfl
  rw [markCount_cons, markCount_append, markCount_cons ']']
  omega

/-- A tag leaves fewer marks than it is written with. -/
theorem markCount_tagPieces_lt (position slashes : Nat) (body : List Char) :
    markCount ((tagPieces position slashes body).flatMap Piece.chars) <
      slashes + markCount body + 2 := by
  have hslashes : markCount ((if slashes < 2 then []
      else [Piece.text (List.replicate (slashes / 2) '\\')]).flatMap Piece.chars) =
        slashes / 2 := by
    split
    case isTrue hfew => exact (Nat.div_eq_of_lt hfew).symm
    case isFalse =>
        rw [List.flatMap_singleton, Piece.chars, markCount_replicate]
  rw [tagPieces, List.flatMap_append, markCount_append, hslashes, List.flatMap_singleton]
  split
  case isTrue hodd =>
      rw [Piece.chars, List.cons_append, markCount_brackets]
      have hnone : markCount [] = 0 := rfl
      omega
  case isFalse =>
      have hnone : markCount (Piece.chars (.tag (position + slashes / 2 * 2) body)) = 0 := rfl
      omega

/-- No mark comes in, and some are lost where a tag is read. -/
theorem markCount_piecesAfter (position : Nat) (text : List Char) (skip : Nat)
    (s : List Char) :
    markCount ((piecesAfter position text skip s).flatMap Piece.chars) ≤
        markCount text + markCount (s.drop skip) ∧
      ((∀ t, t <:+ s.drop skip → escapedTag? t = none) ∨
        markCount ((piecesAfter position text skip s).flatMap Piece.chars) <
          markCount text + markCount (s.drop skip)) := by
  induction s generalizing position text skip with
  | nil =>
      rw [piecesAfter, flatMap_chars_flush, markCount_reverse, List.drop_nil]
      exact ⟨Nat.le_add_right _ _, Or.inl isPlain_nil.untagged⟩
  | cons c rest ih =>
      cases skip with
      | succ more => exact ih (position + 1) text more
      | zero =>
          rw [List.drop_zero]
          cases hfound : escapedTag? (c :: rest) with
          | none =>
              have hcount : markCount (c :: text) + markCount rest =
                  markCount text + markCount (c :: rest) := by
                rw [markCount_cons, markCount_cons c rest]
                omega
              obtain ⟨hle, hrest⟩ := ih (position + 1) (c :: text) 0
              rw [List.drop_zero] at hle hrest
              rw [piecesAfter_char hfound, ← hcount]
              refine ⟨hle, hrest.imp_left fun huntagged t ht => ?_⟩
              obtain rfl | ht := List.suffix_cons_iff.mp ht
              · exact hfound
              · exact huntagged t ht
          | some found =>
              obtain ⟨slashes, body⟩ := found
              obtain ⟨-, after, hwhole⟩ := escapedTag?_eq_some_iff.mp hfound
              have hfront : c :: rest =
                  List.replicate slashes '\\' ++ '[' :: (body ++ [']']) ++ after := by
                rw [hwhole]
                simp
              have hlength : (List.replicate slashes '\\' ++ '[' :: (body ++ [']'])).length =
                  slashes + body.length + 1 + 1 := by
                simp
                omega
              have hdrop : (c :: rest).drop (slashes + body.length + 1 + 1) = after := by
                rw [hfront, List.drop_left' hlength]
              rw [List.drop_succ_cons] at hdrop
              have hbefore := markCount_tagPieces_lt position slashes body
              obtain ⟨hafter, -⟩ := ih (position + 1) [] (slashes + body.length + 1)
              have hnone : markCount [] = 0 := rfl
              rw [hdrop] at hafter
              have hlt : markCount ((piecesAfter position text 0 (c :: rest)).flatMap
                  Piece.chars) < markCount text + markCount (c :: rest) := by
                rw [piecesAfter_tag hfound, List.flatMap_append, List.flatMap_append,
                  markCount_append, markCount_append, flatMap_chars_flush, markCount_reverse,
                  hwhole, markCount_append, markCount_replicate, markCount_brackets]
                omega
              exact ⟨Nat.le_of_lt hlt, Or.inr hlt⟩

/-- What is shown of a text that is not plain has fewer marks. -/
theorem markCount_shown_lt {s : List Char} (hs : ¬IsPlain s) :
    markCount (shown s) < markCount s := by
  obtain ⟨-, huntagged | hlost⟩ := markCount_piecesAfter 0 [] 0 s
  · rw [List.drop_zero] at huntagged
    have hshown : shown s = Piece.shown (.text s) := by
      rw [shown, pieces, piecesAfter_of_untagged huntagged, List.append_nil, shown_flush,
        List.reverse_reverse]
      rfl
    have hbrackets := isLessened_unescapeBrackets s
    have hpictures := isLessened_replaceAfter 0 0 (unescapeBrackets s)
    rw [List.drop_zero] at hpictures
    rw [hshown, Piece.shown, replacePictures]
    obtain hunescaped | hlost := hbrackets
    · rw [hunescaped] at hpictures ⊢
      exact hpictures.resolve_left fun hunpictured => hs ⟨huntagged, hunescaped, hunpictured⟩
    · exact Nat.lt_of_le_of_lt hpictures.le hlost
  · rw [List.drop_zero] at hlost
    have hnone : markCount [] = 0 := rfl
    have hshown := markCount_shown_le (pieces s)
    rw [shown]
    rw [pieces] at hshown ⊢
    omega

/-! ## Characters that are shown -/

theorem unescapeBrackets_subset (s : List Char) : unescapeBrackets s ⊆ s := by
  fun_induction unescapeBrackets s with
  | case1 => exact List.Subset.refl _
  | case2 rest ih =>
      exact List.subset_cons_of_subset _ (List.cons_subset_cons _ ih)
  | case3 c rest _ ih => exact List.cons_subset_cons _ ih

theorem forall_mem_flush {p : Char → Prop} {text : List Char} (htext : ∀ c ∈ text, p c) :
    ∀ part ∈ flush text, ∀ c ∈ part.chars, p c := by
  intro part hpart
  rw [flush] at hpart
  split at hpart
  case isTrue => exact absurd hpart List.not_mem_nil
  case isFalse =>
      rw [List.mem_singleton.mp hpart]
      exact fun c hc => htext c (List.mem_reverse.mp hc)

/-- What holds of nothing, of pictures and of each character, and stays true where texts are
joined, holds of what names are replaced in. -/
theorem replaceAfter_induction {p : List Char → Prop} (hnil : p [])
    (happend : ∀ {s t}, p s → p t → p (s ++ t)) (hpicture : ∀ {s}, IsPicture s → p s)
    (keep skip : Nat) {s : List Char} (hs : ∀ c ∈ s, p [c]) : p (replaceAfter keep skip s) := by
  induction s generalizing keep skip with
  | nil => exact hnil
  | cons c rest ih =>
      obtain ⟨hc, hrest⟩ := List.forall_mem_cons.mp hs
      have hkept (more : Nat) : p (c :: replaceAfter more 0 rest) := happend hc (ih more 0 hrest)
      cases skip with
      | succ more => exact ih 0 more hrest
      | zero =>
          cases keep with
          | succ more => exact hkept more
          | zero =>
              rw [replaceAfter]
              split
              · split
                case h_1 shown hshown =>
                    exact happend (hpicture (isPicture_of_namedPicture? hshown)) (ih 0 _ hrest)
                case h_2 => exact hkept _
              · exact hkept 0

section Marks

variable {p : Char → Prop} (hmarks : ∀ c ∈ ['[', ']', '\\'], p c)
include hmarks

theorem forall_mem_tagPieces (position slashes : Nat) {body : List Char}
    (hbody : ∀ c ∈ body, p c) :
    ∀ part ∈ tagPieces position slashes body, ∀ c ∈ part.chars, p c := by
  rw [tagPieces, List.forall_mem_append, List.forall_mem_singleton]
  constructor
  · split
    case isTrue => exact fun _ hmem => absurd hmem List.not_mem_nil
    case isFalse =>
        refine List.forall_mem_singleton.mpr fun c hc => ?_
        rw [List.eq_of_mem_replicate hc]
        exact hmarks '\\' (by simp)
  · split
    case isTrue =>
        exact List.forall_mem_cons.mpr ⟨hmarks '[' (by simp), List.forall_mem_append.mpr
          ⟨hbody, List.forall_mem_singleton.mpr (hmarks ']' (by simp))⟩⟩
    case isFalse => exact fun _ hmem => absurd hmem List.not_mem_nil

theorem forall_mem_piecesAfter (position : Nat) {text : List Char} (skip : Nat) {s : List Char}
    (htext : ∀ c ∈ text, p c) (hs : ∀ c ∈ s, p c) :
    ∀ part ∈ piecesAfter position text skip s, ∀ c ∈ part.chars, p c := by
  induction s generalizing position text skip with
  | nil => exact forall_mem_flush htext
  | cons c rest ih =>
      obtain ⟨hc, hrest⟩ := List.forall_mem_cons.mp hs
      cases skip with
      | succ more => exact ih (position + 1) more htext hrest
      | zero =>
          cases hfound : escapedTag? (c :: rest) with
          | none =>
              rw [piecesAfter_char hfound]
              exact ih _ 0 (List.forall_mem_cons.mpr ⟨hc, htext⟩) hrest
          | some found =>
              obtain ⟨slashes, body⟩ := found
              obtain ⟨-, after, hwhole⟩ := escapedTag?_eq_some_iff.mp hfound
              have hbody : ∀ d ∈ body, p d := by
                intro d hd
                apply hs
                rw [hwhole]
                simp [hd]
              rw [piecesAfter_tag hfound, List.forall_mem_append, List.forall_mem_append]
              exact ⟨⟨forall_mem_flush htext,
                forall_mem_tagPieces hmarks position slashes hbody⟩,
                ih _ _ (fun _ hmem => absurd hmem List.not_mem_nil) hrest⟩

/-- What is true of the characters of a text, and of brackets and backslashes, is true of the
characters of its parts. -/
theorem forall_mem_pieces {s : List Char} (hs : ∀ c ∈ s, p c) :
    ∀ part ∈ pieces s, ∀ c ∈ part.chars, p c :=
  forall_mem_piecesAfter hmarks 0 0 (fun _ hmem => absurd hmem List.not_mem_nil) hs

end Marks

/-- What pictures have in common with the characters of a part is true of what is shown of it. -/
theorem Piece.shown_induction {p : List Char → Prop} (hnil : p [])
    (happend : ∀ {s t}, p s → p t → p (s ++ t)) (hpicture : ∀ {s}, IsPicture s → p s)
    {part : Piece} (hpart : ∀ c ∈ part.chars, p [c]) : p part.shown := by
  cases part with
  | text s =>
      exact replaceAfter_induction hnil happend hpicture 0 0
        fun c hc => hpart c (unescapeBrackets_subset s hc)
  | tag position body => exact hnil

end Parley.Terminal.Markup
