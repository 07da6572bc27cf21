import Mathlib.Data.List.Chain
import Parley.Proofs.Text.Trimming
import Parley.Proofs.Text.Words
import Parley.Proofs.Terminal.Lines
import Parley.Terminal.Markup

/-!
# Text with tags

Where a text with markup is cut, and what is left of it on the terminal: a tag is read alike
whatever comes after it, a text can be cut in front of a tag, and what is shown are the texts
between the tags, one after the other.
-/

namespace Parley.Terminal

namespace Markup

/-! ## Tags -/

/-- What stands between the brackets of a tag. -/
structure IsTagBody (body : List Char) : Prop where
  start : ∃ c ∈ body.head?, isTagStart c = true
  inside : ∀ c ∈ body, c ≠ ']' ∧ c ≠ '['

theorem ne_of_isTagStart {c : Char} (hc : isTagStart c = true) : c ≠ ']' ∧ c ≠ '[' := by
  constructor
  · rintro rfl
    exact absurd hc (by decide)
  · rintro rfl
    exact absurd hc (by decide)

theorem tagBody?_eq_some_iff {s body : List Char} :
    tagBody? s = some body ↔
      IsTagBody body ∧ ∃ rest, s = '[' :: (body ++ ']' :: rest) := by
  constructor
  · intro hbody
    rw [tagBody?.eq_def] at hbody
    split at hbody
    case h_1 c rest =>
        split at hbody
        case isTrue hstart =>
            dsimp only at hbody
            split at hbody
            case isTrue hclosed =>
                obtain rfl := Option.some.inj hbody
                rw [Text.drop_length_takeWhile] at hclosed
                obtain ⟨after, hafter⟩ := List.head?_eq_some_iff.mp hclosed
                refine ⟨⟨⟨c, rfl, hstart⟩, List.forall_mem_cons.mpr
                  ⟨ne_of_isTagStart hstart, ?_⟩⟩, after, ?_⟩
                · intro d hd
                  simpa using List.mem_takeWhile_imp hd
                · rw [List.cons_append, ← hafter, List.takeWhile_append_dropWhile]
            case isFalse => exact absurd hbody (by simp)
        case isFalse => exact absurd hbody (by simp)
    case h_2 => exact absurd hbody (by simp)
  · rintro ⟨⟨⟨c, hc, hstart⟩, hinside⟩, rest, rfl⟩
    obtain ⟨tail, rfl⟩ := List.head?_eq_some_iff.mp hc
    have htail : ∀ d ∈ tail, (d != ']' && d != '[') = true := by
      intro d hd
      simpa using hinside d (List.mem_cons_of_mem c hd)
    have hstop : (tail ++ ']' :: rest).takeWhile (fun d => d != ']' && d != '[') = tail := by
      rw [List.takeWhile_append_of_pos htail, List.takeWhile_cons_of_neg (by decide),
        List.append_nil]
    rw [List.cons_append, tagBody?, if_pos hstart, hstop]
    dsimp only
    rw [List.drop_left]
    exact if_pos rfl

theorem escapedTag?_eq_some_iff {s body : List Char} {slashes : Nat} :
    escapedTag? s = some (slashes, body) ↔
      IsTagBody body ∧ ∃ rest, s = List.replicate slashes '\\' ++ '[' :: (body ++ ']' :: rest) := by
  rw [escapedTag?, Text.drop_length_takeWhile]
  constructor
  · intro hfound
    obtain ⟨other, hother, hpair⟩ := Option.map_eq_some_iff.mp hfound
    obtain ⟨hslashes, rfl⟩ := Prod.mk.inj hpair
    obtain ⟨hbody, rest, hrest⟩ := tagBody?_eq_some_iff.mp hother
    have hfront : s.takeWhile (· == '\\') = List.replicate slashes '\\' := by
      rw [List.eq_replicate_iff]
      exact ⟨hslashes, fun c hc => by simpa using List.mem_takeWhile_imp hc⟩
    refine ⟨hbody, rest, ?_⟩
    rw [← hfront, ← hrest, List.takeWhile_append_dropWhile]
  · rintro ⟨hbody, rest, rfl⟩
    have hslashes : ∀ c ∈ List.replicate slashes '\\', (c == '\\') = true := by simp
    rw [List.takeWhile_append_of_pos hslashes, List.dropWhile_append_of_pos hslashes,
      List.takeWhile_cons_of_neg (by decide), List.dropWhile_cons_of_neg (by decide),
      tagBody?_eq_some_iff.mpr ⟨hbody, rest, rfl⟩, List.append_nil, List.length_replicate]
    rfl

theorem escapedTag?_eq_none {c : Char} (hbackslash : c ≠ '\\') (hbracket : c ≠ '[')
    (rest : List Char) : escapedTag? (c :: rest) = none := by
  rw [Option.eq_none_iff_forall_ne_some]
  rintro ⟨slashes, body⟩ hfound
  obtain ⟨-, after, hwhole⟩ := escapedTag?_eq_some_iff.mp hfound
  cases slashes with
  | zero => exact hbracket (List.cons.inj hwhole).1
  | succ slashes => exact hbackslash (List.cons.inj hwhole).1

/-- A bracket that comes later belongs to no tag that is open. -/
theorem escapedTag?_append {s : List Char} (hne : s ≠ []) (hlast : s.getLast? ≠ some '\\')
    (t : List Char) : escapedTag? (s ++ '[' :: t) = escapedTag? s := by
  have hnoSlashes (slashes : Nat) : s ≠ List.replicate slashes '\\' := by
    rintro rfl
    rw [List.getLast?_replicate] at hlast
    split at hlast
    case isTrue hzero => exact hne (by rw [hzero]; rfl)
    case isFalse => exact hlast rfl
  ext ⟨slashes, body⟩
  rw [escapedTag?_eq_some_iff, escapedTag?_eq_some_iff]
  refine and_congr_right fun hbody => ⟨?_, ?_⟩
  · rintro ⟨rest, hwhole⟩
    obtain ⟨more, hslashes, -⟩ | ⟨after, hfront, hafter⟩ := List.append_eq_append_iff.mp hwhole
    · have hall : ∀ c ∈ s, c = '\\' := by
        intro c hc
        apply List.eq_of_mem_replicate (n := slashes)
        rw [hslashes]
        exact List.mem_append_left _ hc
      exact absurd (List.eq_replicate_of_mem hall) (hnoSlashes _)
    · cases after with
      | nil => exact absurd (hfront.trans (List.append_nil _)) (hnoSlashes _)
      | cons c after =>
          obtain ⟨rfl, htail⟩ := List.cons.inj hafter
          obtain ⟨more, hmore, hclose⟩ | ⟨more, hmore, hclose⟩ :=
            List.append_eq_append_iff.mp htail
          · cases more with
            | nil => exact absurd (List.cons.inj hclose).1 (by decide)
            | cons d more =>
                obtain ⟨rfl, -⟩ := List.cons.inj hclose
                exact ⟨more, by rw [hfront, hmore]⟩
          · cases more with
            | nil => exact absurd (List.cons.inj hclose).1 (by decide)
            | cons d more =>
                obtain ⟨rfl, -⟩ := List.cons.inj hclose
                refine absurd rfl (hbody.inside '[' ?_).2
                rw [hmore]
                exact List.mem_append_right _ List.mem_cons_self
  · rintro ⟨rest, rfl⟩
    exact ⟨rest ++ '[' :: t, by simp⟩

/-! ## Pieces -/

section Steps

variable {c : Char} {rest body : List Char} {slashes : Nat}

theorem length_le_of_escapedTag? (hfound : escapedTag? (c :: rest) = some (slashes, body)) :
    slashes + body.length + 1 ≤ rest.length := by
  obtain ⟨-, after, hwhole⟩ := escapedTag?_eq_some_iff.mp hfound
  have hlength := congrArg List.length hwhole
  simp only [List.length_cons, List.length_append, List.length_replicate] at hlength
  omega

theorem piecesAfter_tag (hfound : escapedTag? (c :: rest) = some (slashes, body))
    (position : Nat) (text : List Char) :
    piecesAfter position text 0 (c :: rest) =
      flush text ++ tagPieces position slashes body ++
        piecesAfter (position + 1) [] (slashes + body.length + 1) rest := by
  have hc : (c = '\\' || c = '[') = true := by
    obtain ⟨-, after, hwhole⟩ := escapedTag?_eq_some_iff.mp hfound
    cases slashes with
    | zero => rw [(List.cons.inj hwhole).1]; rfl
    | succ slashes => rw [(List.cons.inj hwhole).1]; rfl
  simp only [piecesAfter, if_pos hc, hfound]

theorem piecesAfter_char (hnone : escapedTag? (c :: rest) = none) (position : Nat)
    (text : List Char) :
    piecesAfter position text 0 (c :: rest) = piecesAfter (position + 1) (c :: text) 0 rest := by
  simp only [piecesAfter, hnone, ite_self]

theorem piecesAfter_skip (position : Nat) (text : List Char) (more : Nat) :
    piecesAfter position text (more + 1) (c :: rest) =
      piecesAfter (position + 1) text more rest := rfl

end Steps

/-- A text can be cut in front of a tag. -/
theorem piecesAfter_append_tag {t body : List Char} (htag : tagBody? ('[' :: t) = some body)
    {s : List Char} (hlast : s.getLast? ≠ some '\\') {skip : Nat} (hskip : skip ≤ s.length)
    (position : Nat) (text : List Char) :
    piecesAfter position text skip (s ++ '[' :: t) =
      piecesAfter position text skip s ++ piecesAfter (position + s.length) [] 0 ('[' :: t) := by
  induction s generalizing position text skip with
  | nil =>
      obtain rfl := Nat.le_zero.mp hskip
      have hfound : escapedTag? ('[' :: t) = some (0, body) :=
        escapedTag?_eq_some_iff.mpr (tagBody?_eq_some_iff.mp htag)
      rw [List.nil_append, piecesAfter_tag hfound, piecesAfter_tag hfound, List.append_assoc]
      rfl
  | cons c rest ih =>
      have hrest : rest.getLast? ≠ some '\\' := by
        intro hrest
        rw [List.getLast?_cons, hrest] at hlast
        exact hlast rfl
      have hplace : position + 1 + rest.length = position + (c :: rest).length := by
        rw [List.length_cons]
        omega
      have hcut := escapedTag?_append (List.cons_ne_nil c rest) hlast t
      rw [List.cons_append] at hcut ⊢
      cases skip with
      | succ more =>
          rw [piecesAfter_skip, piecesAfter_skip, ih hrest (Nat.le_of_succ_le_succ hskip), hplace]
      | zero =>
          cases hfound : escapedTag? (c :: rest) with
          | none =>
              rw [piecesAfter_char hfound, piecesAfter_char (hcut.trans hfound),
                ih hrest (Nat.zero_le _), hplace]
          | some found =>
              obtain ⟨slashes, inside⟩ := found
              rw [piecesAfter_tag hfound, piecesAfter_tag (hcut.trans hfound),
                ih hrest (length_le_of_escapedTag? hfound), hplace, ← List.append_assoc]

/-- What is shown of a part. -/
def Piece.shown : Piece → List Char
  | .text s => replacePictures (unescapeBrackets s)
  | .tag _ _ => []

/-- What is shown of a text with markup. -/
def shown (s : List Char) : List Char :=
  (pieces s).flatMap Piece.shown

/-! ## Neutral text -/

/-- A text that means nothing to markup, whatever stands behind it. -/
structure IsNeutral (s : List Char) : Prop where
  bracket : '[' ∉ s
  backslash : '\\' ∉ s
  colon : s.IsChain fun c d => c = ':' → d = ' '
  last : s.getLast? ≠ some ':'

instance (s : List Char) : Decidable (IsNeutral s) :=
  decidable_of_iff
    ('[' ∉ s ∧ '\\' ∉ s ∧ (s.IsChain fun c d => c = ':' → d = ' ') ∧ s.getLast? ≠ some ':')
    ⟨fun ⟨hbracket, hbackslash, hcolon, hlast⟩ => ⟨hbracket, hbackslash, hcolon, hlast⟩,
      fun h => ⟨h.bracket, h.backslash, h.colon, h.last⟩⟩

theorem isNeutral_of_notMem {s : List Char} (hbracket : '[' ∉ s) (hbackslash : '\\' ∉ s)
    (hcolon : ':' ∉ s) : IsNeutral s where
  bracket := hbracket
  backslash := hbackslash
  colon := by
    rw [List.isChain_iff_getElem]
    intro i hi hc
    exact absurd (hc ▸ List.getElem_mem _) hcolon
  last := fun hlast => hcolon (List.mem_of_getLast? hlast)

theorem IsNeutral.append {s t : List Char} (hs : IsNeutral s) (ht : IsNeutral t) (hne : t ≠ []) :
    IsNeutral (s ++ t) where
  bracket := by rw [List.mem_append, not_or]; exact ⟨hs.bracket, ht.bracket⟩
  backslash := by rw [List.mem_append, not_or]; exact ⟨hs.backslash, ht.backslash⟩
  colon := by
    rw [List.isChain_append]
    refine ⟨hs.colon, ht.colon, ?_⟩
    rintro c hc d hd rfl
    exact absurd hc hs.last
  last := by
    rw [List.getLast?_append_of_ne_nil _ hne]
    exact ht.last

theorem IsNeutral.tail {c : Char} {rest : List Char} (h : IsNeutral (c :: rest)) :
    IsNeutral rest where
  bracket := fun hmem => h.bracket (List.mem_cons_of_mem c hmem)
  backslash := fun hmem => h.backslash (List.mem_cons_of_mem c hmem)
  colon := h.colon.tail
  last := by
    intro hrest
    apply h.last
    rw [List.getLast?_cons, hrest]
    rfl

/-- Behind a colon in a neutral text comes a space, so no name. -/
theorem IsNeutral.colonName {rest : List Char} (h : IsNeutral (':' :: rest)) (t : List Char) :
    colonName? (rest ++ t) = none := by
  cases rest with
  | nil => exact absurd rfl h.last
  | cons d others =>
      have hspace : d = ' ' := (List.isChain_cons_cons.mp h.colon).1 rfl
      subst hspace
      rfl

theorem IsNeutral.replaceAfter_append {s : List Char} (h : IsNeutral s) (t : List Char) :
    replaceAfter 0 0 (s ++ t) = s ++ replaceAfter 0 0 t := by
  induction s with
  | nil => rfl
  | cons c rest ih =>
      have hname : (if c = ':' then colonName? (rest ++ t) else none) = none := by
        split
        case isTrue hcolon =>
            subst hcolon
            exact h.colonName t
        case isFalse => rfl
      rw [List.cons_append, List.cons_append, ← ih h.tail, replaceAfter, hname]

theorem IsNeutral.unescapeBrackets_append {s : List Char} (h : IsNeutral s) (t : List Char) :
    unescapeBrackets (s ++ t) = s ++ unescapeBrackets t := by
  induction s with
  | nil => rfl
  | cons c rest ih =>
      have hc : c ≠ '\\' := by
        rintro rfl
        exact h.backslash List.mem_cons_self
      rw [List.cons_append, List.cons_append, ← ih h.tail, unescapeBrackets]
      rintro others rfl
      exact absurd rfl hc

theorem IsNeutral.escapedTag?_eq_none {c : Char} {rest : List Char} (h : IsNeutral (c :: rest))
    (t : List Char) : escapedTag? (c :: (rest ++ t)) = none := by
  apply Markup.escapedTag?_eq_none
  · rintro rfl
    exact h.backslash List.mem_cons_self
  · rintro rfl
    exact h.bracket List.mem_cons_self

theorem isNeutral_nil : IsNeutral [] :=
  ⟨List.not_mem_nil, List.not_mem_nil, .nil, fun hlast => nomatch hlast⟩

theorem shown_flush (text : List Char) :
    (flush text).flatMap Piece.shown = replacePictures (unescapeBrackets text.reverse) := by
  rw [flush]
  split
  case isTrue hempty => rw [List.isEmpty_iff.mp hempty]; rfl
  case isFalse => exact List.append_nil _

theorem shown_tagPieces (position other slashes : Nat) (body : List Char) :
    (tagPieces position slashes body).flatMap Piece.shown =
      (tagPieces other slashes body).flatMap Piece.shown := by
  rw [tagPieces, tagPieces, List.flatMap_append, List.flatMap_append]
  congr 1
  split <;> rfl

theorem IsNeutral.shown_flush {s : List Char} (h : IsNeutral s) (text : List Char) :
    (flush (text ++ s.reverse)).flatMap Piece.shown = s ++ (flush text).flatMap Piece.shown := by
  rw [Markup.shown_flush, Markup.shown_flush, List.reverse_append, List.reverse_reverse,
    h.unescapeBrackets_append, replacePictures, h.replaceAfter_append]
  rfl

/-- A neutral text in front of a text that was read so far is shown as it is, and places play no
part. -/
theorem IsNeutral.shown_piecesAfter {s : List Char} (h : IsNeutral s) (t : List Char) (skip : Nat)
    (text : List Char) (position other : Nat) :
    (piecesAfter position (text ++ s.reverse) skip t).flatMap Piece.shown =
      s ++ (piecesAfter other text skip t).flatMap Piece.shown := by
  induction t generalizing s skip text position other with
  | nil => exact h.shown_flush text
  | cons c rest ih =>
      cases skip with
      | succ more => rw [piecesAfter_skip, piecesAfter_skip, ih h]
      | zero =>
          cases hfound : escapedTag? (c :: rest) with
          | none =>
              rw [piecesAfter_char hfound, piecesAfter_char hfound, ← List.cons_append, ih h]
          | some found =>
              obtain ⟨slashes, body⟩ := found
              have hrest := ih isNeutral_nil (slashes + body.length + 1) [] (position + 1) (other + 1)
              rw [piecesAfter_tag hfound, piecesAfter_tag hfound]
              simp only [List.flatMap_append, h.shown_flush, shown_tagPieces position other]
              simp only [List.reverse_nil, List.append_nil, List.nil_append] at hrest
              rw [hrest]
              simp only [List.append_assoc]

theorem IsNeutral.piecesAfter_append {s : List Char} (h : IsNeutral s) (t : List Char)
    (position : Nat) (text : List Char) :
    piecesAfter position text 0 (s ++ t) =
      piecesAfter (position + s.length) (s.reverse ++ text) 0 t := by
  induction s generalizing position text with
  | nil => rfl
  | cons c rest ih =>
      have hnone := h.escapedTag?_eq_none t
      rw [List.cons_append, piecesAfter_char hnone, ih h.tail, List.length_cons, List.reverse_cons,
        List.append_assoc, Nat.add_assoc, Nat.add_comm 1]
      rfl

theorem IsNeutral.shown_append {s : List Char} (h : IsNeutral s) (t : List Char) :
    shown (s ++ t) = s ++ shown t := by
  rw [shown, pieces, h.piecesAfter_append, List.append_nil, ← List.nil_append s.reverse,
    h.shown_piecesAfter t 0 [] _ 0]
  rfl

/-! ## Text in red -/

/-- A text between the tags that colour it. -/
def reddened (s : List Char) : List Char :=
  "[red]".toList ++ (s ++ "[/red]".toList)

theorem pieces_reddened {s : List Char} (hlast : s.getLast? ≠ some '\\') :
    pieces (reddened s) =
      .tag 0 "red".toList :: (piecesAfter 5 [] 0 s ++ [.tag (5 + s.length) "/red".toList]) := by
  have hred : tagBody? "[red]".toList = some "red".toList := by decide
  have hopen : escapedTag? (reddened s) = some (0, "red".toList) :=
    escapedTag?_eq_some_iff.mpr
      ⟨(tagBody?_eq_some_iff.mp hred).1, s ++ "[/red]".toList, rfl⟩
  have hclose : tagBody? "[/red]".toList = some "/red".toList := by decide
  have hback : piecesAfter 5 [] 0 (s ++ "[/red]".toList) =
      piecesAfter 5 [] 0 s ++ piecesAfter (5 + s.length) [] 0 "[/red]".toList :=
    piecesAfter_append_tag hclose hlast (Nat.zero_le _) 5 []
  calc pieces (reddened s)
      = .tag 0 "red".toList :: piecesAfter 5 [] 0 (s ++ "[/red]".toList) :=
        piecesAfter_tag hopen 0 []
    _ = .tag 0 "red".toList :: (piecesAfter 5 [] 0 s ++ [.tag (5 + s.length) "/red".toList]) := by
        rw [hback]
        rfl

theorem shown_reddened {s : List Char} (hlast : s.getLast? ≠ some '\\') :
    shown (reddened s) = shown s := by
  have hplace := isNeutral_nil.shown_piecesAfter s 0 [] 5 0
  simp only [List.reverse_nil, List.append_nil, List.nil_append] at hplace
  rw [shown, pieces_reddened hlast, List.flatMap_cons, List.flatMap_append, hplace]
  exact List.append_nil _

end Markup

end Parley.Terminal
