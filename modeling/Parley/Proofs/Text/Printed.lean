import Parley.Proofs.Text.Clusters
import Parley.Text.Blank
import Parley.Text.Quoted

/-!
# Printed text

Printable characters are visible, but for the space.  What is quoted is printed in full: the
quotation has printable characters only.
-/

namespace Parley.Text

/-- A text of printable characters. -/
def IsPrinted (s : List Char) : Prop :=
  ∀ c ∈ s, isPrintable c = true

/-- Decided over the text and not over all characters. -/
instance (s : List Char) : Decidable (IsPrinted s) :=
  List.decidableBAll (fun c => isPrintable c = true) s

theorem isPrinted_append_iff {s t : List Char} :
    IsPrinted (s ++ t) ↔ IsPrinted s ∧ IsPrinted t :=
  List.forall_mem_append

theorem IsPrinted.of_subset {s t : List Char} (h : IsPrinted s) (hsub : t ⊆ s) : IsPrinted t :=
  fun c hc => h c (hsub hc)

/-- The codes of the blanks other than the space. -/
def otherBlanks : List Nat :=
  [9, 10, 11, 12, 13, 28, 29, 30, 31, 0x85, 0xA0, 0x1680, 0x2000, 0x2001, 0x2002, 0x2003, 0x2004,
    0x2005, 0x2006, 0x2007, 0x2008, 0x2009, 0x200A, 0x2028, 0x2029, 0x202F, 0x205F, 0x3000]

theorem mem_otherBlanks {c : Char} (hblank : isBlank c = true) (hspace : c ≠ ' ') :
    c.toNat ∈ otherBlanks := by
  have hcode : c.toNat ≠ 32 := by
    intro hcode
    exact hspace (Char.toNat_inj.mp hcode)
  simp only [isBlank, Bool.or_eq_true, Bool.and_eq_true, decide_eq_true_eq, beq_iff_eq] at hblank
  simp only [otherBlanks, List.mem_cons, List.not_mem_nil, or_false]
  omega

/-- No blank but the space is printable. -/
theorem eq_space_of_isPrintable {c : Char} (hprintable : isPrintable c = true)
    (hblank : isBlank c = true) : c = ' ' := by
  by_cases hspace : c = ' '
  · exact hspace
  · have hnone : ∀ n ∈ otherBlanks, isPrintable (Char.ofNat n) = false := by decide +kernel
    have hc := hnone c.toNat (mem_otherBlanks hblank hspace)
    rw [Char.ofNat_toNat] at hc
    exact absurd (hprintable.symm.trans hc) (by decide)

theorem IsPrinted.notMem_joiner {s : List Char} (h : IsPrinted s) : joiner ∉ s := by
  intro hmem
  have hjoiner : isPrintable joiner = false := by decide +kernel
  exact absurd ((h joiner hmem).symm.trans hjoiner) (by decide)

/-! ## Quotations -/

theorem isPrinted_hexDigits (places n : Nat) : IsPrinted (hexDigits places n) := by
  induction places generalizing n with
  | zero => exact fun c hc => absurd hc List.not_mem_nil
  | succ places ih =>
      have hdigit : ∀ k < 16, isPrintable (hexDigit k) = true := by decide
      rw [hexDigits, isPrinted_append_iff]
      exact ⟨ih _, List.forall_mem_singleton.mpr (hdigit _ (Nat.mod_lt n (by decide)))⟩

theorem isPrinted_escapeCode (c : Char) : IsPrinted (escapeCode c) := by
  have hfront (kind : Char) (hkind : isPrintable kind = true) (places : Nat) :
      IsPrinted ('\\' :: kind :: hexDigits places c.toNat) :=
    List.forall_mem_cons.mpr ⟨rfl, List.forall_mem_cons.mpr ⟨hkind, isPrinted_hexDigits _ _⟩⟩
  rw [escapeCode]
  split
  · exact hfront 'x' rfl 2
  · split
    · exact hfront 'u' rfl 4
    · exact hfront 'U' rfl 8

theorem isPrinted_quotedChar {quote : Char} (hquote : isPrintable quote = true) (c : Char) :
    IsPrinted (quotedChar quote c) := by
  rw [quotedChar]
  split
  case isTrue hescaped =>
      rw [Bool.or_eq_true, decide_eq_true_eq, decide_eq_true_eq] at hescaped
      obtain rfl | rfl := hescaped
      · exact List.forall_mem_cons.mpr ⟨rfl, List.forall_mem_singleton.mpr hquote⟩
      · exact List.forall_mem_cons.mpr ⟨rfl, List.forall_mem_singleton.mpr rfl⟩
  case isFalse =>
      split
      · decide
      · split
        · decide
        · split
          · decide
          · split
            case isTrue hprintable => exact List.forall_mem_singleton.mpr hprintable
            case isFalse => exact isPrinted_escapeCode c

theorem quoteFor_eq (s : List Char) : quoteFor s = '"' ∨ quoteFor s = '\'' := by
  rw [quoteFor]
  split
  · exact Or.inl rfl
  · exact Or.inr rfl

theorem isPrinted_quoted (s : String) : IsPrinted (quoted s).toList := by
  have hquote : isPrintable (quoteFor s.toList) = true := by
    obtain hquote | hquote := quoteFor_eq s.toList
    · rw [hquote]; rfl
    · rw [hquote]; rfl
  rw [quoted, String.toList_ofList]
  refine List.forall_mem_cons.mpr ⟨hquote, isPrinted_append_iff.mpr
    ⟨?_, List.forall_mem_singleton.mpr hquote⟩⟩
  intro c hc
  obtain ⟨d, -, hd⟩ := List.mem_flatMap.mp hc
  exact isPrinted_quotedChar hquote d c hd

/-- A quotation ends in its quote, so in no backslash. -/
theorem getLast?_quoted (s : String) : (quoted s).toList.getLast? ≠ some '\\' := by
  rw [quoted, String.toList_ofList, ← List.cons_append, List.getLast?_concat, Ne, Option.some_inj]
  obtain hquote | hquote := quoteFor_eq s.toList
  · rw [hquote]; decide
  · rw [hquote]; decide

end Parley.Text
