import Parley.Json.Writer
import Parley.Proofs.Json.Reading

/-!
# What is written is read back

The text that is written of a value without numbers is one of its texts, so reading it
gives the value back.  Only the names in an object have to be distinct.
-/

namespace Parley.Json

/-! ## Strings -/

theorem hexDigit_digit {n : Nat} (hn : n < 16) : HexDigit n (Text.hexDigit n) := by
  interval_cases n <;> exact Or.inl rfl

theorem hexCode_hexDigits {n : Nat} (hn : n < 0x10000) : HexCode n (Text.hexDigits 4 n) := by
  have hcode := HexCode.intro
    (hexDigit_digit (Nat.mod_lt (n / 16 / 16 / 16) (by decide)))
    (hexDigit_digit (Nat.mod_lt (n / 16 / 16) (by decide)))
    (hexDigit_digit (Nat.mod_lt (n / 16) (by decide)))
    (hexDigit_digit (Nat.mod_lt n (by decide)))
  have hvalue : ((n / 16 / 16 / 16 % 16 * 16 + n / 16 / 16 % 16) * 16 + n / 16 % 16) * 16 +
      n % 16 = n := by
    omega
  rw [hvalue] at hcode
  exact hcode

theorem spelledChar_writtenChar (c : Char) : SpelledChar c (writtenChar c) := by
  rw [writtenChar]
  split
  case isTrue hquote =>
      refine .letter ?_
      rw [Bool.or_eq_true, decide_eq_true_eq, decide_eq_true_eq] at hquote
      rcases hquote with rfl | rfl <;> decide
  case isFalse hquote =>
      rw [Bool.or_eq_true, decide_eq_true_eq, decide_eq_true_eq, not_or] at hquote
      split
      case isTrue hc => subst hc; exact .letter (by decide)
      split
      case isTrue hc => subst hc; exact .letter (by decide)
      split
      case isTrue hc => subst hc; exact .letter (by decide)
      split
      case isTrue hc => subst hc; exact .letter (by decide)
      split
      case isTrue hc => subst hc; exact .letter (by decide)
      split
      case isTrue hcontrol => exact .code (hexCode_hexDigits (Nat.lt_trans hcontrol (by decide)))
      case isFalse hcontrol => exact .itself (Nat.not_lt.mp hcontrol) hquote.1 hquote.2

theorem spelledText_written (s : List Char) : SpelledText s (s.flatMap writtenChar) := by
  induction s with
  | nil => exact .nil
  | cons c rest ih => exact .cons (spelledChar_writtenChar c) ih

/-! ## Values -/

theorem blank_nil : Blank [] := fun _ hc => absurd hc List.not_mem_nil

theorem Spelled.padded {digits : Nat} {v : Json} {t : List Char} (hvalue : Spelled digits v t) :
    PaddedWithin digits v t := by
  have hpadded := PaddedWithin.intro blank_nil hvalue blank_nil
  rw [List.append_nil, List.nil_append] at hpadded
  exact hpadded

theorem spelledName_written (name : String) :
    SpelledName name (writtenString name.toList) :=
  SpelledName.intro blank_nil (spelledText_written name.toList) blank_nil

mutual

/-- A value without numbers, in whose objects no name occurs twice. -/
def IsPlain : Json → Prop
  | .null | .bool _ | .string _ => True
  | .integer _ | .float _ => False
  | .array items => ArePlain items
  | .object members => HasPlainMembers members

def ArePlain : List Json → Prop
  | [] => True
  | item :: others => IsPlain item ∧ ArePlain others

def HasPlainMembers : List (String × Json) → Prop
  | [] => True
  | (name, value) :: others =>
      name ∉ others.map Prod.fst ∧ IsPlain value ∧ HasPlainMembers others

end

mutual

/-- What is written of a value is one of its texts. -/
theorem spelled_written {digits : Nat} : ∀ {v : Json}, IsPlain v → Spelled digits v (written v)
  | .null, _ => .null
  | .bool true, _ => .isTrue
  | .bool false, _ => .isFalse
  | .integer _, hplain => hplain.elim
  | .float _, hplain => hplain.elim
  | .string s, _ => .string (spelledText_written s.toList)
  | .array [], _ => .emptyArray blank_nil
  | .array (item :: others), hplain =>
      .array (spelledItems_written (List.cons_ne_nil item others) hplain)
  | .object [], _ => .emptyObject blank_nil
  | .object (member :: others), hplain =>
      .object (spelledMembers_written (List.cons_ne_nil member others) hplain)

theorem spelledItems_written {digits : Nat} : ∀ {items : List Json}, items ≠ [] →
    ArePlain items → SpelledItems digits items (writtenItems items)
  | [], hne, _ => absurd rfl hne
  | [_], _, hplain => .last (spelled_written hplain.1).padded
  | _ :: next :: others, _, hplain =>
      .cons (spelled_written hplain.1).padded
        (spelledItems_written (List.cons_ne_nil next others) hplain.2)

theorem spelledMembers_written {digits : Nat} : ∀ {members : List (String × Json)},
    members ≠ [] → HasPlainMembers members → SpelledMembers digits members (writtenMembers members)
  | [], hne, _ => absurd rfl hne
  | [(name, _)], _, hplain =>
      .last (spelledName_written name) (spelled_written hplain.2.1).padded
  | (name, value) :: next :: others, _, hplain => by
      rw [writtenMembers, List.append_assoc, List.cons_append]
      · exact .cons (spelledName_written name) (spelled_written hplain.2.1).padded
          (spelledMembers_written (List.cons_ne_nil next others) hplain.2.2) hplain.1
      · simp

end

mutual

/-- The texts of a value without numbers have none that is too long. -/
theorem Spelled.of_isPlain {digits limit : Nat} : ∀ {v : Json} {t : List Char},
    Spelled digits v t → IsPlain v → Spelled limit v t
  | _, _, .null, _ => .null
  | _, _, .isTrue, _ => .isTrue
  | _, _, .isFalse, _ => .isFalse
  | _, _, .number hnumber, hplain => by cases hnumber <;> exact hplain.elim
  | _, _, .negative hnumber, hplain => by cases hnumber <;> exact hplain.elim
  | _, _, .string htext, _ => .string htext
  | _, _, .emptyArray hblank, _ => .emptyArray hblank
  | _, _, .array hitems, hplain => .array (hitems.of_arePlain hplain)
  | _, _, .emptyObject hblank, _ => .emptyObject hblank
  | _, _, .object hmembers, hplain => .object (hmembers.of_hasPlainMembers hplain)

theorem PaddedWithin.of_isPlain {digits limit : Nat} : ∀ {v : Json} {t : List Char},
    PaddedWithin digits v t → IsPlain v → PaddedWithin limit v t
  | _, _, .intro hbefore hvalue hafter, hplain =>
      .intro hbefore (hvalue.of_isPlain hplain) hafter

theorem SpelledItems.of_arePlain {digits limit : Nat} : ∀ {items : List Json} {t : List Char},
    SpelledItems digits items t → ArePlain items → SpelledItems limit items t
  | _, _, .last hvalue, hplain => .last (hvalue.of_isPlain hplain.1)
  | _, _, .cons hvalue hothers, hplain =>
      .cons (hvalue.of_isPlain hplain.1) (hothers.of_arePlain hplain.2)

theorem SpelledMembers.of_hasPlainMembers {digits limit : Nat} :
    ∀ {members : List (String × Json)} {t : List Char}, SpelledMembers digits members t →
      HasPlainMembers members → SpelledMembers limit members t
  | _, _, .last hname hvalue, hplain => .last hname (hvalue.of_isPlain hplain.2.1)
  | _, _, .cons hname hvalue hothers hnew, hplain =>
      .cons hname (hvalue.of_isPlain hplain.2.1) (hothers.of_hasPlainMembers hplain.2.2) hnew

end

theorem read_write {v : Json} (hplain : IsPlain v) (hdepth : nesting v ≤ maxDepth) :
    read (write v) = some v := by
  rw [read, write, String.toList_ofList]
  exact readWithin_padded (spelled_written hplain).padded hdepth

end Parley.Json
