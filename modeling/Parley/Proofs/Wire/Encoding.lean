import Parley.Proofs.Wire.Decoding

/-!
# Bytes of a text, written and read

The bytes of a text hold no fault, and reading them gives the text back.  The reader
is followed through the bytes of one character, from the state in which it waits for a
character to the same state.
-/

namespace Parley.Wire

namespace Utf8

theorem toNat_byte {n : Nat} (hn : n < 0x100) : (UInt8.ofNat n).toNat = n :=
  Nat.mod_eq_of_lt hn

theorem step_start {n : Nat} (hn : n < 0x100) : step .start (UInt8.ofNat n) = lead n := by
  rw [step, toNat_byte hn]

/-! ## Bytes that continue a character -/

theorem step_last {value low high n : Nat} (hn : n < 0x40) (hlow : low ≤ 0x80 + n)
    (hhigh : 0x80 + n ≤ high) :
    step (.within value 1 low high) (UInt8.ofNat (0x80 + n)) =
      ([some (Char.ofNat (value * 0x40 + n))], .start) := by
  simp only [step]
  rw [toNat_byte (by omega), if_pos (by simp [hlow, hhigh]), if_pos (by decide),
    Nat.add_sub_cancel_left]

theorem step_more {value more low high n : Nat} (hn : n < 0x40) (hlow : low ≤ 0x80 + n)
    (hhigh : 0x80 + n ≤ high) :
    step (.within value (more + 2) low high) (UInt8.ofNat (0x80 + n)) =
      ([], .within (value * 0x40 + n) (more + 1) 0x80 0xBF) := by
  simp only [step]
  rw [toNat_byte (by omega), if_pos (by simp [hlow, hhigh]), if_neg (by omega),
    Nat.add_sub_cancel_left]
  rfl

/-! ## Bytes that start a character -/

theorem lead_two {n : Nat} (hlow : 0xC2 ≤ n) (hhigh : n ≤ 0xDF) :
    lead n = ([], .within (n - 0xC0) 1 0x80 0xBF) := by
  rw [lead, if_neg (by omega), if_pos (by simp [hlow, hhigh])]

/-- The second byte of a character of three leaves room for neither overlong forms nor
surrogates. -/
theorem lead_three (n next : Nat) (hn : n < 0x10) (hnext : next < 0x40)
    (hshort : 0x20 ≤ n * 0x40 + next)
    (hsurrogate : n * 0x40 + next < 0x360 ∨ 0x380 ≤ n * 0x40 + next) :
    ∃ low high, lead (0xE0 + n) = ([], .within n 2 low high) ∧
      low ≤ 0x80 + next ∧ 0x80 + next ≤ high := by
  rw [lead, if_neg (by omega), if_neg (by simp; omega)]
  by_cases hzero : n = 0
  · subst hzero
    exact ⟨0xA0, 0xBF, rfl, by omega, by omega⟩
  · rw [if_neg (by omega)]
    by_cases hhigh : n = 0xD
    · subst hhigh
      exact ⟨0x80, 0x9F, rfl, by omega, by omega⟩
    · rw [if_neg (by omega), if_pos (by simp; omega), Nat.add_sub_cancel_left]
      exact ⟨0x80, 0xBF, rfl, by omega, by omega⟩

theorem lead_four (n next : Nat) (hn : n < 5) (hnext : next < 0x40)
    (hshort : 0x10 ≤ n * 0x40 + next) (hlast : n * 0x40 + next < 0x110) :
    ∃ low high, lead (0xF0 + n) = ([], .within n 3 low high) ∧
      low ≤ 0x80 + next ∧ 0x80 + next ≤ high := by
  rw [lead, if_neg (by omega), if_neg (by simp; omega), if_neg (by omega), if_neg (by omega),
    if_neg (by simp; omega)]
  by_cases hzero : n = 0
  · subst hzero
    exact ⟨0x90, 0xBF, rfl, by omega, by omega⟩
  · rw [if_neg (by omega)]
    by_cases hfour : n = 4
    · subst hfour
      exact ⟨0x80, 0x8F, rfl, by omega, by omega⟩
    · rw [if_neg (by omega), if_pos (by simp; omega), Nat.add_sub_cancel_left]
      exact ⟨0x80, 0xBF, rfl, by omega, by omega⟩

/-! ## Characters -/

theorem run_one {state last : State} {a : Byte} {items : List Item}
    (ha : step state a = (items, last)) : run state [a] = (items, last) := by
  rw [run_cons, ha]
  simp

theorem run_silent {state next last : State} {a : Byte} {rest : List Byte} {items : List Item}
    (ha : step state a = ([], next)) (hrest : run next rest = (items, last)) :
    run state (a :: rest) = (items, last) := by
  rw [run_cons, ha]
  simp [hrest]

/-- The bytes of a character are read as this character. -/
theorem run_encodeChar (c : Char) : run .start (encodeChar c) = ([some c], .start) := by
  have hvalid : c.toNat < 0xD800 ∨ (0xDFFF < c.toNat ∧ c.toNat < 0x110000) := c.valid
  have hchar : Char.ofNat c.toNat = c := Char.ofNat_toNat c
  simp only [encodeChar]
  generalize c.toNat = n at hvalid hchar
  -- One case for each number of bytes.
  split
  · rename_i hn
    apply run_one
    rw [step_start (by omega), lead, if_pos hn, hchar]
  split
  · rename_i hlow hn
    apply run_silent
    · rw [step_start (by omega), lead_two (by omega) (by omega)]
    · apply run_one
      rw [step_last (by omega) (by omega) (by omega), ← hchar]
      congr 4
      omega
  split
  · rename_i hlow hn
    obtain ⟨low, high, hlead, hl, hh⟩ := lead_three (n / 0x1000) (n / 0x40 % 0x40)
      (by omega) (by omega) (by omega) (by omega)
    apply run_silent
    · rw [step_start (by omega), hlead]
    · apply run_silent (step_more (by omega) hl hh)
      apply run_one
      rw [step_last (by omega) (by omega) (by omega), ← hchar]
      congr 4
      omega
  · rename_i hlow
    obtain ⟨low, high, hlead, hl, hh⟩ := lead_four (n / 0x40000) (n / 0x1000 % 0x40)
      (by omega) (by omega) (by omega) (by omega)
    apply run_silent
    · rw [step_start (by omega), hlead]
    · apply run_silent (step_more (by omega) hl hh)
      apply run_silent (step_more (by omega) (by omega) (by omega))
      apply run_one
      rw [step_last (by omega) (by omega) (by omega), ← hchar]
      congr 4
      omega

/-! ## Texts -/

theorem run_encode (s : List Char) : run .start (encode s) = (s.map some, .start) := by
  induction s with
  | nil => rfl
  | cons c rest ih =>
      rw [encode, List.flatMap_cons, run_append, run_encodeChar, ← encode, ih]
      rfl

theorem items_encode (s : List Char) : items (encode s) = s.map some := by
  simp [items, run_encode, finish]

theorem decode_encode (s : List Char) : decode (encode s) = String.ofList s := by
  simp [decode, items_encode, Function.comp_def, shownItem]

/-- The bytes of a text hold no fault. -/
theorem decode?_encode (s : List Char) : decode? (encode s) = some (String.ofList s) := by
  have hall : ((s.map some).mapM id : Option (List Char)) = some s := by
    induction s with
    | nil => rfl
    | cons c rest ih => simp [ih]
  rw [decode?, items_encode, hall]
  rfl

end Utf8

end Parley.Wire
