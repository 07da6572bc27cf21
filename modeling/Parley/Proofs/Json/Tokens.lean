import Mathlib.Tactic.IntervalCases
import Parley.Json.Reader
import Parley.Proofs.Json.Spelling

/-!
# Reading white space, strings and numbers

Each part of the reader takes exactly the text of its part, whatever follows it.  What
follows a string or a word is free; what follows a number must not continue it.
-/

namespace Parley.Json

/-! ## White space -/

theorem isSpace_of_mem {c : Char} (hc : c ∈ [' ', '\t', '\n', '\r']) : isSpace c = true := by
  simp only [List.mem_cons, List.not_mem_nil, or_false] at hc
  rcases hc with rfl | rfl | rfl | rfl <;> rfl

theorem skipSpace_append {blank : List Char} (hblank : Blank blank) (s : List Char) :
    skipSpace (blank ++ s) = skipSpace s :=
  List.dropWhile_append_of_pos fun c hc => isSpace_of_mem (hblank c hc)

theorem skipSpace_cons {c : Char} (hc : isSpace c = false) (s : List Char) :
    skipSpace (c :: s) = c :: s :=
  List.dropWhile_cons_of_neg (by simp [hc])

/-! ## Strings -/

theorem hexValue?_of_hexDigit {n : Nat} {c : Char} (hdigit : HexDigit n c) :
    hexValue? c = some n := by
  obtain hlower | hupper := hdigit
  · have hn : n < 16 := (List.getElem?_eq_some_iff.mp hlower).1
    interval_cases n <;> (cases hlower; decide)
  · have hn : n < 16 := (List.getElem?_eq_some_iff.mp hupper).1
    interval_cases n <;> (cases hupper; decide)

theorem readChars_digit {c : Char} {digit : Nat} (hdigit : HexDigit digit c)
    (high : Option Nat) (left value : Nat) (s : List Char) :
    readChars (.code high (left + 2) value) (c :: s) =
      readChars (.code high (left + 1) (16 * value + digit)) s := by
  rw [readChars, hexValue?_of_hexDigit hdigit]
  rfl

/-- What follows a code unit depends on whether it is a character or half of one. -/
theorem readChars_hexCode {n : Nat} {digits : List Char} (hdigits : HexCode n digits)
    (high : Option Nat) (s : List Char) :
    readChars (.code high 4 0) (digits ++ s) =
      match codeResult high n with
      | .char c => consRead c (readChars .plain s)
      | .wait h => readChars (.trailSlash h) s
      | .bad => none := by
  cases hdigits with
  | intro hp hq hr hs =>
      simp only [List.cons_append, List.nil_append]
      rw [readChars_digit hp, readChars_digit hq, readChars_digit hr, readChars,
        hexValue?_of_hexDigit hs]
      dsimp only
      rw [if_pos (by decide)]
      congr 2
      omega

/-- No character is a surrogate. -/
theorem codeResult_char (c : Char) : codeResult none c.toNat = .char c := by
  have hvalid : c.toNat < 0xD800 ∨ (0xDFFF < c.toNat ∧ c.toNat < 0x110000) := c.valid
  have hleading : isLeading c.toNat = false := by
    rw [isLeading, Bool.and_eq_false_iff, decide_eq_false_iff_not, decide_eq_false_iff_not]
    omega
  have htrailing : isTrailing c.toNat = false := by
    rw [isTrailing, Bool.and_eq_false_iff, decide_eq_false_iff_not, decide_eq_false_iff_not]
    omega
  rw [codeResult, hleading, htrailing]
  exact congrArg CodeResult.char (Char.ofNat_toNat c)

theorem codeResult_leading {high : Nat} (hhigh : high < 0x400) :
    codeResult none (0xD800 + high) = .wait (0xD800 + high) := by
  have hleading : isLeading (0xD800 + high) = true := by
    rw [isLeading, Bool.and_eq_true, decide_eq_true_eq, decide_eq_true_eq]
    omega
  rw [codeResult, hleading]
  rfl

theorem codeResult_trailing {c : Char} {high low : Nat}
    (hchar : c.toNat = 0x10000 + high * 0x400 + low) (hlow : low < 0x400) :
    codeResult (some (0xD800 + high)) (0xDC00 + low) = .char c := by
  have htrailing : isTrailing (0xDC00 + low) = true := by
    rw [isTrailing, Bool.and_eq_true, decide_eq_true_eq, decide_eq_true_eq]
    omega
  have hpaired : pairedChar (0xD800 + high) (0xDC00 + low) = c := by
    rw [pairedChar, Nat.add_sub_cancel_left, Nat.add_sub_cancel_left, ← hchar]
    exact Char.ofNat_toNat c
  rw [codeResult, htrailing, hpaired]
  rfl

theorem escapedChar?_of_mem {e c : Char} (hletter : (e, c) ∈ letterEscapes) :
    escapedChar? e = some c := by
  simp only [letterEscapes, List.mem_cons, Prod.mk.injEq, List.not_mem_nil, or_false]
    at hletter
  rcases hletter with ⟨rfl, rfl⟩ | ⟨rfl, rfl⟩ | ⟨rfl, rfl⟩ | ⟨rfl, rfl⟩ | ⟨rfl, rfl⟩ |
    ⟨rfl, rfl⟩ | ⟨rfl, rfl⟩ | ⟨rfl, rfl⟩ <;> rfl

theorem ne_u_of_mem {e c : Char} (hletter : (e, c) ∈ letterEscapes) : e ≠ 'u' := by
  rintro rfl
  simp [letterEscapes] at hletter

theorem readChars_escape (s : List Char) : readChars .plain ('\\' :: s) = readChars .escape s :=
  rfl

theorem readChars_unicode (s : List Char) :
    readChars .plain ('\\' :: 'u' :: s) = readChars (.code none 4 0) s := rfl

theorem readChars_trail (high : Nat) (s : List Char) :
    readChars (.trailSlash high) ('\\' :: 'u' :: s) = readChars (.code (some high) 4 0) s :=
  rfl

/-- Every text of a character is read as this character. -/
theorem readChars_spelledChar {c : Char} {t : List Char} (hchar : SpelledChar c t)
    (s : List Char) : readChars .plain (t ++ s) = consRead c (readChars .plain s) := by
  cases hchar with
  | itself hcontrol hquote hslash =>
      rw [List.singleton_append, readChars, if_neg hquote, if_neg hslash,
        if_neg (Nat.not_lt.mpr hcontrol)]
  | letter hletter =>
      rw [List.cons_append, List.singleton_append, readChars_escape, readChars,
        if_neg (ne_u_of_mem hletter), escapedChar?_of_mem hletter]
  | code hdigits =>
      rw [List.cons_append, List.cons_append, readChars_unicode, readChars_hexCode hdigits,
        codeResult_char]
  | @pair high low first second hpair hlow hfirst hsecond =>
      have hvalid : c.toNat < 0xD800 ∨ (0xDFFF < c.toNat ∧ c.toNat < 0x110000) := c.valid
      have hhigh : high < 0x400 := by omega
      rw [List.cons_append, List.cons_append, List.append_assoc, readChars_unicode,
        readChars_hexCode hfirst, codeResult_leading hhigh, List.cons_append,
        List.cons_append]
      dsimp only
      rw [readChars_trail, readChars_hexCode hsecond, codeResult_trailing hpair hlow]

theorem readChars_spelledText {s t : List Char} (htext : SpelledText s t) (rest : List Char) :
    readChars .plain (t ++ '"' :: rest) = some (s, rest) := by
  induction htext with
  | nil => rfl
  | cons hchar _ ih =>
      rw [List.append_assoc, readChars_spelledChar hchar, ih]
      rfl

theorem readStringTail_spelledText {s : String} {t : List Char}
    (htext : SpelledText s.toList t) (rest : List Char) :
    readStringTail (t ++ '"' :: rest) = some (s, rest) := by
  rw [readStringTail, readChars_spelledText htext]
  exact congrArg (fun name => some (name, rest)) (String.ofList_toList)

/-! ## Words and numbers -/

/-- What may follow a number: nothing that could continue it. -/
def Ends (rest : List Char) : Prop :=
  ∀ c ∈ rest.head?, c ∈ [' ', '\t', '\n', '\r', ',', ']', '}']

theorem isDigit_of_ends {c : Char} (hc : c ∈ [' ', '\t', '\n', '\r', ',', ']', '}']) :
    c.isDigit = false := by
  simp only [List.mem_cons, List.not_mem_nil, or_false] at hc
  rcases hc with rfl | rfl | rfl | rfl | rfl | rfl | rfl <;> rfl

theorem dropWord_of_ne {c d : Char} (hne : c ≠ d) (word s : List Char) :
    dropWord (d :: word) (c :: s) = none := by
  rw [dropWord, if_neg]
  simp [List.isPrefixOf, hne.symm]

theorem spanSomeDigits_append {digits rest : List Char} (hdigits : SomeDigits digits)
    (hrest : ∀ c ∈ rest.head?, c.isDigit = false) :
    spanSomeDigits (digits ++ rest) = some (digits, rest) := by
  have hspan : spanDigits (digits ++ rest) = (digits, rest) := by
    rw [spanDigits, List.takeWhile_append_of_pos hdigits.2, List.dropWhile_append_of_pos hdigits.2]
    cases rest with
    | nil => simp
    | cons c tail =>
        have hc : c.isDigit = false := hrest c rfl
        simp [hc]
  rw [spanSomeDigits, hspan]
  exact if_neg (by simpa using hdigits.1)

theorem readFraction_of_ne {rest : List Char} (hrest : '.' ∉ rest.head?) :
    readFraction rest = some (none, rest) := by
  rw [readFraction]
  rintro places rfl
  exact hrest rfl

theorem readFraction_places {places rest : List Char} (hplaces : SomeDigits places)
    (hrest : ∀ c ∈ rest.head?, c.isDigit = false) :
    readFraction ('.' :: (places ++ rest)) = some (some places, rest) := by
  rw [readFraction, spanSomeDigits_append hplaces hrest]
  rfl

theorem readExponent_of_ne {rest : List Char} (hrest : ∀ c ∈ rest.head?, c ∉ ['e', 'E']) :
    readExponent rest = some (none, rest) := by
  cases rest with
  | nil => rfl
  | cons c tail =>
      have hc : c ∉ ['e', 'E'] := hrest c rfl
      rw [readExponent, if_neg]
      simpa using hc

theorem spanSign_digits {digits : List Char} (hdigits : SomeDigits digits)
    (rest : List Char) : spanSign (digits ++ rest) = (false, digits ++ rest) := by
  obtain ⟨hne, hall⟩ := hdigits
  cases digits with
  | nil => exact absurd rfl hne
  | cons c tail =>
      have hc : c.isDigit = true := hall c List.mem_cons_self
      have hsign : c ≠ '-' ∧ c ≠ '+' := by
        constructor <;> (rintro rfl; exact absurd hc (by decide))
      rw [List.cons_append, spanSign]
      · rintro left hleft
        exact hsign.1 (List.cons.inj hleft).1
      · rintro left hleft
        exact hsign.2 (List.cons.inj hleft).1

theorem readExponent_mark {mark : Char} (hmark : mark ∈ ['e', 'E']) {signed : List Char}
    {minus : Bool} {digits rest : List Char} (hsign : spanSign signed = (minus, digits ++ rest))
    (hdigits : SomeDigits digits) (hrest : ∀ c ∈ rest.head?, c.isDigit = false) :
    readExponent (mark :: signed) =
      some (some (if minus then -(digitsValue digits : Int) else digitsValue digits), rest) := by
  rw [readExponent, if_pos (by simpa using hmark), hsign]
  dsimp only
  rw [spanSomeDigits_append hdigits hrest]
  rfl

theorem readExponent_power {n : Int} {power : List Char} (hpower : SpelledPower n power)
    {rest : List Char} (hrest : ∀ c ∈ rest.head?, c.isDigit = false) :
    readExponent (power ++ rest) = some (some n, rest) := by
  cases hpower with
  | unsigned hmark hdigits =>
      exact readExponent_mark hmark (spanSign_digits hdigits rest) hdigits hrest
  | @plus mark digits hmark hdigits =>
      have hsign : spanSign ('+' :: (digits ++ rest)) = (false, digits ++ rest) := rfl
      exact readExponent_mark hmark hsign hdigits hrest
  | @minus mark digits hmark hdigits =>
      have hsign : spanSign ('-' :: (digits ++ rest)) = (true, digits ++ rest) := rfl
      exact readExponent_mark hmark hsign hdigits hrest

theorem head?_power {n : Int} {power : List Char} (hpower : SpelledPower n power)
    (rest : List Char) : ∃ mark ∈ ['e', 'E'], (power ++ rest).head? = some mark := by
  cases hpower with
  | unsigned hmark _ => exact ⟨_, hmark, rfl⟩
  | plus hmark _ => exact ⟨_, hmark, rfl⟩
  | minus hmark _ => exact ⟨_, hmark, rfl⟩

/-- A leading zero stands alone. -/
theorem not_leadingZero {digits : Nat} {negative : Bool} {whole : List Char}
    (hwhole : WholeDigits digits negative whole) :
    (whole.head? = some '0' && 1 < whole.length) = false := by
  rw [Bool.and_eq_false_imp]
  intro hzero
  rw [hwhole.zero (of_decide_eq_true hzero)]
  rfl

/-- A number is what its three parts are read as. -/
theorem readUnsignedNumber_parts {digits : Nat} {negative : Bool}
    {whole afterWhole afterFraction rest : List Char} {fraction : Option (List Char)}
    {power : Option Int} (hwhole : WholeDigits digits negative whole)
    (hafter : ∀ c ∈ afterWhole.head?, c.isDigit = false)
    (hfraction : readFraction afterWhole = some (fraction, afterFraction))
    (hpower : readExponent afterFraction = some (power, rest)) :
    readUnsignedNumber negative (whole ++ afterWhole) =
      if maxDigits < negative.toNat + whole.length then none
      else if fraction.isNone && power.isNone then
        some (.integer (if negative then -(digitsValue whole : Int) else digitsValue whole), rest)
      else
        some (.float (.ofDecimal negative (digitsValue (whole ++ fraction.getD []))
          (power.getD 0 - (fraction.getD []).length)), rest) := by
  rw [readUnsignedNumber, spanSomeDigits_append hwhole.someDigits hafter]
  dsimp only
  rw [not_leadingZero hwhole, if_neg Bool.false_ne_true, hfraction]
  dsimp only
  rw [hpower]

/-- A text of a number is read as this number or not at all, by the size of its whole part
only. -/
theorem exists_size_of_number {digits : Nat} {negative : Bool} {v : Json} {t : List Char}
    (hnumber : SpelledNumber digits negative v t) {rest : List Char} (hrest : Ends rest) :
    ∃ size ≤ digits, (∀ limit, size ≤ limit → SpelledNumber limit negative v t) ∧
      readUnsignedNumber negative (t ++ rest) =
        if maxDigits < size then none else some (v, rest) := by
  have hdigit : ∀ c ∈ rest.head?, c.isDigit = false := fun c hc => isDigit_of_ends (hrest c hc)
  have hpoint : '.' ∉ rest.head? := fun hc => absurd (hrest '.' hc) (by decide)
  have hmark : ∀ c ∈ rest.head?, c ∉ ['e', 'E'] := by
    intro c hc hmem
    have hend := hrest c hc
    simp only [List.mem_cons, List.not_mem_nil, or_false] at hmem
    rcases hmem with rfl | rfl <;> exact absurd hend (by decide)
  have hlimit {whole : List Char} (hwhole : WholeDigits digits negative whole) {limit : Nat}
      (hsize : negative.toNat + whole.length ≤ limit) : WholeDigits limit negative whole :=
    ⟨hwhole.someDigits, hwhole.zero, hsize⟩
  cases hnumber with
  | integer hwhole =>
      refine ⟨_, hwhole.length_le, fun limit hsize => .integer (hlimit hwhole hsize), ?_⟩
      exact readUnsignedNumber_parts hwhole hdigit (readFraction_of_ne hpoint)
        (readExponent_of_ne hmark)
  | fraction hwhole hplaces =>
      refine ⟨_, hwhole.length_le, fun limit hsize => .fraction (hlimit hwhole hsize) hplaces, ?_⟩
      rw [List.append_assoc, List.cons_append,
        readUnsignedNumber_parts hwhole (by simp) (readFraction_places hplaces hdigit)
          (readExponent_of_ne hmark)]
      rfl
  | @power whole power n hwhole hpower =>
      refine ⟨_, hwhole.length_le, fun limit hsize => .power (hlimit hwhole hsize) hpower, ?_⟩
      obtain ⟨mark, hmarks, hhead⟩ := head?_power hpower rest
      have hother : mark ≠ '.' ∧ mark.isDigit = false := by
        simp only [List.mem_cons, List.not_mem_nil, or_false] at hmarks
        rcases hmarks with rfl | rfl <;> decide
      rw [List.append_assoc, readUnsignedNumber_parts hwhole (by simpa [hhead] using hother.2)
        (readFraction_of_ne (by simpa [hhead] using hother.1)) (readExponent_power hpower hdigit)]
      simp
  | @fractionPower whole places power n hwhole hplaces hpower =>
      refine ⟨_, hwhole.length_le,
        fun limit hsize => .fractionPower (hlimit hwhole hsize) hplaces hpower, ?_⟩
      obtain ⟨mark, hmarks, hhead⟩ := head?_power hpower rest
      have hother : mark.isDigit = false := by
        simp only [List.mem_cons, List.not_mem_nil, or_false] at hmarks
        rcases hmarks with rfl | rfl <;> decide
      rw [List.append_assoc, List.cons_append, List.append_assoc,
        readUnsignedNumber_parts hwhole (by simp)
          (readFraction_places hplaces (by simpa [hhead] using hother))
          (readExponent_power hpower hdigit)]
      rfl

theorem readUnsignedNumber_spelled {negative : Bool} {v : Json} {t : List Char}
    (hnumber : SpelledNumber maxDigits negative v t) {rest : List Char} (hrest : Ends rest) :
    readUnsignedNumber negative (t ++ rest) = some (v, rest) := by
  obtain ⟨size, hsize, -, hread⟩ := exists_size_of_number hnumber hrest
  rw [hread, if_neg (Nat.not_lt.mpr hsize)]

theorem readUnsignedNumber_of_long {digits : Nat} {negative : Bool} {v : Json} {t : List Char}
    (hnumber : SpelledNumber digits negative v t)
    (hlong : ¬SpelledNumber maxDigits negative v t) {rest : List Char} (hrest : Ends rest) :
    readUnsignedNumber negative (t ++ rest) = none := by
  obtain ⟨size, -, hlimit, hread⟩ := exists_size_of_number hnumber hrest
  rw [hread, if_pos (Nat.lt_of_not_le fun hsize => hlong (hlimit _ hsize))]

theorem head?_number {digits : Nat} {negative : Bool} {v : Json} {t : List Char}
    (hnumber : SpelledNumber digits negative v t) :
    ∃ c rest, t = c :: rest ∧ c.isDigit = true := by
  have hwhole : ∀ {whole : List Char} (after : List Char), WholeDigits digits negative whole →
      ∃ c rest, whole ++ after = c :: rest ∧ c.isDigit = true := by
    intro whole after hwhole
    cases whole with
    | nil => exact absurd rfl hwhole.someDigits.1
    | cons c rest => exact ⟨c, rest ++ after, rfl, hwhole.someDigits.2 c List.mem_cons_self⟩
  cases hnumber with
  | integer h =>
      obtain ⟨c, rest, heq, hc⟩ := hwhole [] h
      exact ⟨c, rest, by rw [← heq, List.append_nil], hc⟩
  | fraction h _ => exact hwhole _ h
  | power h _ => exact hwhole _ h
  | fractionPower h _ _ => exact hwhole _ h

theorem readScalar_of_number {c : Char} (hc : c.isDigit = true ∨ c = '-') (s : List Char) :
    readScalar (c :: s) = readJsonNumber (c :: s) := by
  have hne : ∀ d ∈ ['n', 't', 'f', 'N', 'I'], c ≠ d := by
    rintro d hd rfl
    simp only [List.mem_cons, List.not_mem_nil, or_false] at hd
    rcases hd with rfl | rfl | rfl | rfl | rfl <;> exact absurd hc (by decide)
  have hword : ∀ {first : Char} {word : List Char}, first ∈ ['n', 't', 'f', 'N', 'I'] →
      dropWord (first :: word) (c :: s) = none :=
    fun hfirst => dropWord_of_ne (hne _ hfirst) _ s
  have hnull : dropWord "null".toList (c :: s) = none := hword (by decide)
  have htrue : dropWord "true".toList (c :: s) = none := hword (by decide)
  have hfalse : dropWord "false".toList (c :: s) = none := hword (by decide)
  have hnan : dropWord "NaN".toList (c :: s) = none := hword (by decide)
  have hinfinity : dropWord infinityWord (c :: s) = none := hword (by decide)
  rw [readScalar, hnull, htrue, hfalse, hnan, hinfinity]

theorem readScalar_number {digits : Nat} {v : Json} {t : List Char}
    (hnumber : SpelledNumber digits false v t) (rest : List Char) :
    readScalar (t ++ rest) = readUnsignedNumber false (t ++ rest) := by
  obtain ⟨c, tail, rfl, hc⟩ := head?_number hnumber
  have hminus : c ≠ '-' := by
    rintro rfl
    exact absurd hc (by decide)
  rw [List.cons_append, readScalar_of_number (Or.inl hc), readJsonNumber]
  rintro left hleft
  exact hminus (List.cons.inj hleft).1

theorem readScalar_negative {digits : Nat} {v : Json} {t : List Char}
    (hnumber : SpelledNumber digits true v t) (rest : List Char) :
    readScalar ('-' :: (t ++ rest)) = readUnsignedNumber true (t ++ rest) := by
  obtain ⟨c, tail, rfl, hc⟩ := head?_number hnumber
  have hinfinity : dropWord infinityWord (c :: (tail ++ rest)) = none := by
    refine dropWord_of_ne ?_ _ _
    rintro rfl
    exact absurd hc (by decide)
  rw [readScalar_of_number (Or.inr rfl), readJsonNumber, List.cons_append, hinfinity]

end Parley.Json
