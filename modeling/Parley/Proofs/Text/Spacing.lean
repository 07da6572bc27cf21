import Mathlib.Data.List.Chain
import Parley.Proofs.Text.Wrapping

/-!
# What wrapping does to a text

Wrapping changes the blanks of a text and nothing else.  A line that is too wide becomes
its words, in their order, with a space or a line feed between them.  A word stays whole
unless it is wider than a line; then it is broken by line feeds, and never by a space:
two of its pieces with a space between them are always too wide for a line.
-/

namespace Parley.Text

/-- How a word may be written on lines of a width. -/
inductive WrittenWord (width : Nat) (word : List Char) : List Char → Prop
  | whole : WrittenWord width word word
  | broken {pieces : List (List Char)} : width < cellLen word →
      (∀ piece ∈ pieces, piece ≠ []) → pieces.flatten = word →
      WrittenWord width word (['\n'].intercalate pieces)

/-- How words may be written one after the other. -/
inductive WrittenWords (width : Nat) : List (List Char) → List Char → Prop
  | none : WrittenWords width [] []
  | last {word text : List Char} : WrittenWord width word text →
      WrittenWords width [word] text
  | cons {word text others : List Char} {rest : List (List Char)} {gap : Char} :
      WrittenWord width word text → gap = ' ' ∨ gap = '\n' → rest ≠ [] →
      WrittenWords width rest others →
      WrittenWords width (word :: rest) (text ++ gap :: others)

/-- What a line may become: it stays, or its words are written anew if it is too wide. -/
def Rewritten (width : Nat) (line block : List Char) : Prop :=
  block = line ∨ width < cellLen line ∧ WrittenWords width (words line) block

variable {width : Nat}

/-! ## Broken words -/

/-- A piece of a word ends where the next character made it too wide. -/
theorem isChain_splitWordAfter (width : Nat) (current rest : List Char) :
    (splitWordAfter width current rest).IsChain fun piece next =>
      ∃ c tail, next = c :: tail ∧ width < cellLen (piece ++ [c]) := by
  induction rest generalizing current with
  | nil =>
      rw [splitWordAfter]
      split
      · exact List.isChain_nil
      · exact List.isChain_singleton _
  | cons c rest ih =>
      obtain ⟨-, hwide, hcons⟩ | ⟨-, hcons⟩ := splitWordAfter_cons width current c rest
      · have hrest := ih [c]
        obtain ⟨tail, others, hnext⟩ :=
          exists_splitWordAfter width (List.cons_ne_nil c []) rest
        rw [hcons]
        rw [hnext] at hrest ⊢
        exact List.isChain_cons_cons.mpr ⟨⟨c, tail, rfl, hwide⟩, hrest⟩
      · rw [hcons]
        exact ih (current ++ [c])

/-- Two neighbouring pieces of a word do not fit a line with a space between them. -/
theorem isChain_wide_splitWord (width : Nat) (word : List Char) :
    (splitWord width word).IsChain fun piece next =>
      width < cellLen piece + 1 + cellLen next := by
  apply (isChain_splitWordAfter width [] word).imp
  rintro piece next ⟨c, tail, rfl, hwide⟩
  have hadded := cellLen_append_singleton_le piece c
  have hlonger := cellLen_le_append [c] tail
  rw [List.singleton_append] at hlonger
  omega

/-- A word that is broken is wider than a line. -/
theorem lt_cellLen_of_splitWordAfter {current rest piece next : List Char}
    {others : List (List Char)}
    (hsplit : splitWordAfter width current rest = piece :: next :: others) :
    width < cellLen (current ++ rest) := by
  induction rest generalizing current with
  | nil =>
      rw [splitWordAfter] at hsplit
      split at hsplit
      · exact absurd hsplit (List.cons_ne_nil _ _).symm
      · exact absurd (List.cons.inj hsplit).2 (List.cons_ne_nil _ _).symm
  | cons c rest ih =>
      have happend : current ++ c :: rest = current ++ [c] ++ rest := by
        rw [List.append_assoc, List.singleton_append]
      rw [happend]
      obtain ⟨-, hwide, -⟩ | ⟨-, hcons⟩ := splitWordAfter_cons width current c rest
      · exact Nat.lt_of_lt_of_le hwide (cellLen_le_append _ rest)
      · exact ih (hcons ▸ hsplit)

theorem writtenWord_splitWord (width : Nat) (word : List Char) :
    WrittenWord width word (['\n'].intercalate (splitWord width word)) := by
  have hflatten := flatten_splitWord width word
  cases hsplit : splitWord width word with
  | nil =>
      rw [hsplit] at hflatten
      rw [← hflatten]
      exact .whole
  | cons piece rest =>
      cases rest with
      | nil =>
          rw [hsplit, List.flatten_singleton] at hflatten
          rw [List.intercalate_singleton, hflatten]
          exact .whole
      | cons next others =>
          have hwide : width < cellLen word := lt_cellLen_of_splitWordAfter hsplit
          rw [← hsplit]
          exact .broken hwide (fun _ hpiece => ne_nil_of_mem_splitWordAfter hpiece) hflatten

/-! ## Filled lines -/

/-- The text of the pieces that come after a piece.  Two pieces have a space between them
only if there is room for both on a line. -/
inductive Following (width : Nat) : List Char → List (List Char) → List Char → Prop
  | none (piece : List Char) : Following width piece [] []
  | space {piece next text : List Char} {rest : List (List Char)} :
      cellLen piece + 1 + cellLen next ≤ width → Following width next rest text →
      Following width piece (next :: rest) (' ' :: (next ++ text))
  | newline {piece next text : List Char} {rest : List (List Char)} :
      Following width next rest text →
      Following width piece (next :: rest) ('\n' :: (next ++ text))

/-- The line under construction ends in a piece and is as wide as that piece at least, so
another piece for which the line has room has room beside that piece alone. -/
theorem exists_following {current piece : List Char} {pieces : List (List Char)}
    (hcurrent : current ≠ []) (hpiece : cellLen piece ≤ cellLen current)
    (hpieces : ∀ next ∈ pieces, next ≠ []) :
    ∃ text, ['\n'].intercalate (fillLinesAfter width current pieces) = current ++ text ∧
      Following width piece pieces text := by
  induction pieces generalizing current piece with
  | nil =>
      refine ⟨[], ?_, .none piece⟩
      rw [List.append_nil]
      exact List.intercalate_singleton
  | cons next rest ih =>
      obtain ⟨hnext, hrest⟩ := List.forall_mem_cons.mp hpieces
      obtain ⟨hroom, hcons⟩ | ⟨-, hcons⟩ := fillLinesAfter_cons width hcurrent next rest
      · have hlonger : current ++ ' ' :: next ≠ [] :=
          List.append_ne_nil_of_left_ne_nil hcurrent _
        obtain ⟨text, htext, hfollowing⟩ :=
          ih hlonger (le_cellLen_append_space current next) hrest
        refine ⟨' ' :: (next ++ text), ?_, .space (by omega) hfollowing⟩
        rw [hcons, htext, List.append_assoc, List.cons_append]
      · obtain ⟨text, htext, hfollowing⟩ := ih hnext (Nat.le_refl _) hrest
        refine ⟨'\n' :: (next ++ text), ?_, .newline hfollowing⟩
        rw [hcons, List.intercalate_cons_of_ne_nil (fillLinesAfter_ne_nil width next rest), htext,
          List.append_assoc, List.singleton_append]

/-- The text of pieces, each but the first on a line of its own. -/
theorem intercalate_newline (piece : List Char) (rest : List (List Char)) :
    ['\n'].intercalate (piece :: rest) = piece ++ rest.flatMap fun next => '\n' :: next := by
  induction rest generalizing piece with
  | nil => rw [List.intercalate_singleton, List.flatMap_nil, List.append_nil]
  | cons next others ih =>
      rw [List.intercalate_cons_cons, ih, List.flatMap_cons, List.append_assoc,
        List.singleton_append, List.cons_append]

/-- What follows the first piece of a word is the rest of the word, with line feeds before
its pieces, and what follows its last piece. -/
theorem Following.exists_rest {piece text : List Char} {pieces others : List (List Char)}
    (hchain : (piece :: pieces).IsChain fun piece next =>
      width < cellLen piece + 1 + cellLen next)
    (h : Following width piece (pieces ++ others) text) :
    ∃ last later, text = (pieces.flatMap fun next => '\n' :: next) ++ later ∧
      Following width last others later := by
  induction pieces generalizing piece text with
  | nil => exact ⟨piece, text, rfl, h⟩
  | cons next rest ih =>
      obtain ⟨hwide, hrest⟩ := List.isChain_cons_cons.mp hchain
      cases h with
      | space hroom _ => exact absurd hwide (Nat.not_lt.mpr hroom)
      | newline hfollowing =>
          obtain ⟨last, later, htext, hlater⟩ := ih hrest hfollowing
          refine ⟨last, later, ?_, hlater⟩
          rw [htext, List.flatMap_cons, List.cons_append, List.cons_append, List.append_assoc]

theorem Following.exists_written {word piece text : List Char}
    {pieces others : List (List Char)} (hword : splitWord width word = piece :: pieces)
    (h : Following width piece (pieces ++ others) text) :
    ∃ last written later, piece ++ text = written ++ later ∧
      WrittenWord width word written ∧ Following width last others later := by
  have hchain := isChain_wide_splitWord width word
  have hwritten := writtenWord_splitWord width word
  rw [hword] at hchain
  rw [hword, intercalate_newline] at hwritten
  obtain ⟨last, later, rfl, hlater⟩ := h.exists_rest hchain
  exact ⟨last, _, later, (List.append_assoc _ _ _).symm, hwritten, hlater⟩

theorem exists_pieces_splitWord (width : Nat) {word : List Char} (hword : word ≠ []) :
    ∃ piece pieces, splitWord width word = piece :: pieces := by
  apply List.exists_cons_of_ne_nil
  intro hnil
  have hflatten := flatten_splitWord width word
  rw [hnil] at hflatten
  exact hword hflatten.symm

theorem Following.writtenWords {word piece text : List Char} {pieces rest : List (List Char)}
    (hword : splitWord width word = piece :: pieces) (hrest : ∀ later ∈ rest, later ≠ [])
    (h : Following width piece (pieces ++ rest.flatMap (splitWord width)) text) :
    WrittenWords width (word :: rest) (piece ++ text) := by
  induction rest generalizing word piece text pieces with
  | nil =>
      obtain ⟨last, written, later, htext, hwritten, hlater⟩ := h.exists_written hword
      cases hlater
      rw [htext, List.append_nil]
      exact .last hwritten
  | cons next rest ih =>
      obtain ⟨last, written, later, htext, hwritten, hlater⟩ := h.exists_written hword
      obtain ⟨hnonempty, hothers⟩ := List.forall_mem_cons.mp hrest
      obtain ⟨first, others, hnext⟩ := exists_pieces_splitWord width hnonempty
      rw [List.flatMap_cons, hnext, List.cons_append] at hlater
      rw [htext]
      cases hlater with
      | space _ hfollowing =>
          exact .cons hwritten (Or.inl rfl) (List.cons_ne_nil _ _)
            (ih hnext hothers hfollowing)
      | newline hfollowing =>
          exact .cons hwritten (Or.inr rfl) (List.cons_ne_nil _ _)
            (ih hnext hothers hfollowing)

/-- The pieces of all words are joined by one loop, which cannot tell the pieces of one word
from those of two; the widths of the pieces tell. -/
theorem rewritten_wrapLine (width : Nat) (line : List Char) :
    Rewritten width line (['\n'].intercalate (wrapLine width line)) := by
  rw [wrapLine]
  split
  case isTrue => exact Or.inl List.intercalate_singleton
  case isFalse hwide =>
      refine Or.inr ⟨Nat.not_le.mp hwide, ?_⟩
      have hwords : ∀ word ∈ words line, word ≠ [] := fun _ hword => ne_nil_of_mem_words hword
      rw [reflow]
      cases hline : words line with
      | nil => exact .none
      | cons word rest =>
          rw [hline, List.forall_mem_cons] at hwords
          obtain ⟨piece, pieces, hword⟩ := exists_pieces_splitWord width hwords.1
          have hpieces : ∀ next ∈ piece :: pieces ++ rest.flatMap (splitWord width),
              next ≠ [] := by
            intro next hnext
            rw [← hword, ← List.flatMap_cons] at hnext
            obtain ⟨_, -, hnext⟩ := List.mem_flatMap.mp hnext
            exact ne_nil_of_mem_splitWordAfter hnext
          rw [List.cons_append, List.forall_mem_cons] at hpieces
          obtain ⟨text, htext, hfollowing⟩ :=
            exists_following hpieces.1 (Nat.le_refl _) hpieces.2
          rw [List.flatMap_cons, hword, List.cons_append, fillLinesAfter_nil_cons, htext]
          exact hfollowing.writtenWords hword hwords.2

end Parley.Text
