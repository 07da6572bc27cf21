/-!
# Blanks, words and lines

Text is cut at blanks and at line feeds in several places: the prompt strips
what was typed, labels collapse runs of blanks, and wrapping works line by
line and word by word.  This module fixes the set of blanks and the cutting
functions, all as structural recursions on lists of characters.
-/

namespace Parley.Text

/-- The characters that separate words: the line and page controls, the four
information separators, and the Unicode spaces other than the zero-width ones. -/
def isBlank (c : Char) : Bool :=
  let n := c.toNat
  (9 ≤ n && n ≤ 13) || (28 ≤ n && n ≤ 32) || n == 0x85 || n == 0xA0 || n == 0x1680 ||
    (0x2000 ≤ n && n ≤ 0x200A) || n == 0x2028 || n == 0x2029 || n == 0x202F ||
    n == 0x205F || n == 0x3000

/-- The pieces of a list between the members that satisfy `cut`; a list with `n`
such members has `n + 1` pieces. -/
def pieces {α : Type} (cut : α → Bool) : List α → List (List α)
  | [] => [[]]
  | c :: rest =>
      if cut c then [] :: pieces cut rest
      else
        match pieces cut rest with
        | [] => [[c]]
        | first :: others => (c :: first) :: others

/-- The words of a text: its non-empty pieces between blanks. -/
def words (s : List Char) : List (List Char) :=
  (pieces isBlank s).filter fun piece => !piece.isEmpty

/-- The lines of a text, cut at line feeds only. -/
def lines (s : List Char) : List (List Char) :=
  pieces (· == '\n') s

/-- Drops the longest tail whose members all satisfy `p`. -/
def dropTailWhile {α : Type} (p : α → Bool) : List α → List α
  | [] => []
  | c :: rest =>
      match dropTailWhile p rest with
      | [] => if p c then [] else [c]
      | kept => c :: kept

/-- Removes the blanks at both ends. -/
def strip (s : List Char) : List Char :=
  dropTailWhile isBlank (s.dropWhile isBlank)

/-- The text without the blanks at both ends. -/
def stripText (s : String) : String :=
  String.ofList (strip s.toList)

/-- Replaces every run of blanks by one space and removes those at the ends. -/
def collapseBlanks (s : String) : String :=
  String.ofList ([' '].intercalate (words s.toList))

/-- Whether `s` begins with `lead`. -/
def startsWith (s lead : String) : Bool :=
  lead.toList.isPrefixOf s.toList

/-- Whether `s` ends with `tail`. -/
def endsWith (s tail : String) : Bool :=
  tail.toList.reverse.isPrefixOf s.toList.reverse

/-- `s` without its first `n` characters. -/
def dropText (s : String) (n : Nat) : String :=
  String.ofList (s.toList.drop n)

/-- The first `n` characters of `s`. -/
def takeText (s : String) (n : Nat) : String :=
  String.ofList (s.toList.take n)

/-- `n` copies of the character `c`. -/
def replicateText (n : Nat) (c : Char) : String :=
  String.ofList (List.replicate n c)

theorem pieces_ne_nil {α : Type} (cut : α → Bool) (s : List α) : pieces cut s ≠ [] := by
  cases s with
  | nil => simp [pieces]
  | cons c rest =>
      simp only [pieces]
      split
      · simp
      · split <;> simp

theorem ne_nil_of_mem_words {s word : List Char} (hword : word ∈ words s) :
    word ≠ [] := by
  simp only [words, List.mem_filter] at hword
  rcases hword with ⟨_, hne⟩
  intro h
  simp [h] at hne

theorem dropTailWhile_cons_of_neg {α : Type} {p : α → Bool} {c : α} (hc : p c = false)
    (rest : List α) : dropTailWhile p (c :: rest) = c :: dropTailWhile p rest := by
  rw [dropTailWhile]
  cases dropTailWhile p rest with
  | nil => simp [hc]
  | cons kept others => rfl

theorem dropTailWhile_dropTailWhile {α : Type} (p : α → Bool) (s : List α) :
    dropTailWhile p (dropTailWhile p s) = dropTailWhile p s := by
  induction s with
  | nil => rfl
  | cons c rest ih =>
      rw [dropTailWhile]
      cases hrest : dropTailWhile p rest with
      | nil =>
          cases hc : p c with
          | true => simp [dropTailWhile]
          | false => simp [dropTailWhile, hc]
      | cons kept others =>
          rw [hrest] at ih
          rw [dropTailWhile, ih]

/-- What is left between the blanks has none at its ends. -/
theorem strip_strip (s : List Char) : strip (strip s) = strip s := by
  rw [strip, strip]
  cases hfront : s.dropWhile isBlank with
  | nil => rfl
  | cons c rest =>
      have hc : isBlank c = false := by
        have hhead := List.head?_dropWhile_not isBlank s
        rw [hfront] at hhead
        simpa using hhead
      rw [dropTailWhile_cons_of_neg hc, List.dropWhile_cons_of_neg (by simp [hc]),
        dropTailWhile_cons_of_neg hc, dropTailWhile_dropTailWhile]

theorem stripText_stripText (s : String) : stripText (stripText s) = stripText s := by
  rw [stripText, stripText, String.toList_ofList, strip_strip]

end Parley.Text
