import Mathlib.Data.Bool.AllAny
import Mathlib.Data.List.Chain
import Parley.Proofs.Json.Reading

/-!
# Quotation marks in the text of a value

A text that ends inside a string is no text of a value, whatever the string stands in.
Inside a string every quotation mark follows a backslash, while the name of a member
follows a brace or white space; so no part of a string is read as an object with members.
-/

namespace Parley.Json

/-! ## Characters that are written -/

/-- The visible characters of ASCII, and the space. -/
def Visible (c : Char) : Prop :=
  0x20 ≤ c.toNat ∧ c.toNat < 0x7F

instance (c : Char) : Decidable (Visible c) :=
  inferInstanceAs (Decidable (_ ∧ _))

/-- The characters that stand outside of strings. -/
def Ordinary (c : Char) : Prop :=
  c ∈ ['\t', '\n', '\r'] ∨ Visible c

instance (c : Char) : Decidable (Ordinary c) :=
  inferInstanceAs (Decidable (_ ∨ _))

theorem Blank.ordinary {blank : List Char} (hblank : Blank blank) : ∀ c ∈ blank, Ordinary c := by
  intro c hc
  have hspace := hblank c hc
  simp only [List.mem_cons, List.not_mem_nil, or_false] at hspace
  rcases hspace with rfl | rfl | rfl | rfl <;> decide

theorem mem_of_hexDigit {value : Nat} {c : Char} (hdigit : HexDigit value c) :
    c ∈ "0123456789abcdefABCDEF".toList := by
  have hlower : "0123456789abcdef".toList ⊆ "0123456789abcdefABCDEF".toList := by decide
  have hupper : "0123456789ABCDEF".toList ⊆ "0123456789abcdefABCDEF".toList := by decide
  exact hdigit.elim (fun h => hlower (List.mem_of_getElem? h))
    fun h => hupper (List.mem_of_getElem? h)

theorem visible_of_hexCode {n : Nat} {digits : List Char} (hdigits : HexCode n digits) :
    ∀ c ∈ digits, Visible c ∧ c ≠ '"' := by
  have hall : ∀ c ∈ "0123456789abcdefABCDEF".toList, Visible c ∧ c ≠ '"' :=
    List.all_iff_forall_prop.mp (by decide)
  cases hdigits with
  | intro hp hq hr hs =>
      intro c hc
      simp only [List.mem_cons, List.not_mem_nil, or_false] at hc
      rcases hc with rfl | rfl | rfl | rfl
      · exact hall _ (mem_of_hexDigit hp)
      · exact hall _ (mem_of_hexDigit hq)
      · exact hall _ (mem_of_hexDigit hr)
      · exact hall _ (mem_of_hexDigit hs)

theorem visible_of_letter {e c : Char} (hletter : (e, c) ∈ letterEscapes) : Visible e := by
  have hall : ∀ escape ∈ letterEscapes, Visible escape.1 := by decide
  exact hall _ hletter

/-- A character stands for itself, or its text is visible. -/
theorem SpelledChar.visible {c : Char} {t : List Char} (hchar : SpelledChar c t) :
    (t = [c] ∧ 0x20 ≤ c.toNat) ∨ ∀ x ∈ t, Visible x := by
  have hslash : Visible '\\' := by decide
  have hu : Visible 'u' := by decide
  cases hchar with
  | itself hcontrol _ _ => exact Or.inl ⟨rfl, hcontrol⟩
  | letter hletter =>
      right
      simp only [List.forall_mem_cons]
      exact ⟨hslash, visible_of_letter hletter, fun _ hx => absurd hx List.not_mem_nil⟩
  | code hdigits =>
      right
      simp only [List.forall_mem_cons]
      exact ⟨hslash, hu, fun x hx => (visible_of_hexCode hdigits x hx).1⟩
  | pair _ _ hfirst hsecond =>
      right
      simp only [List.forall_mem_cons, List.forall_mem_append]
      exact ⟨hslash, hu, fun x hx => (visible_of_hexCode hfirst x hx).1, hslash, hu,
        fun x hx => (visible_of_hexCode hsecond x hx).1⟩

theorem SpelledText.not_control {s t : List Char} (htext : SpelledText s t) :
    ∀ x ∈ t, 0x20 ≤ x.toNat := by
  induction htext with
  | nil => exact fun x hx => absurd hx List.not_mem_nil
  | cons hchar _ ih =>
      refine List.forall_mem_append.mpr ⟨fun x hx => ?_, ih⟩
      obtain ⟨rfl, hcontrol⟩ | hvisible := hchar.visible
      · rw [List.mem_singleton.mp hx]
        exact hcontrol
      · exact (hvisible x hx).1

theorem SpelledText.visible {s t : List Char} (htext : SpelledText s t)
    (hs : ∀ c ∈ s, Visible c) : ∀ x ∈ t, Visible x := by
  induction htext with
  | nil => exact fun x hx => absurd hx List.not_mem_nil
  | cons hchar _ ih =>
      rw [List.forall_mem_cons] at hs
      refine List.forall_mem_append.mpr ⟨fun x hx => ?_, ih hs.2⟩
      obtain ⟨rfl, -⟩ | hvisible := hchar.visible
      · rw [List.mem_singleton.mp hx]
        exact hs.1
      · exact hvisible x hx

/-- At the first character of a kind that has no visible ones, the text of a string falls
into two such texts. -/
theorem SpelledText.exists_split {p : Char → Bool} (hp : ∀ c, Visible c → p c = false)
    {s t : List Char} (htext : SpelledText s t) (hmem : ∃ c ∈ t, p c = true) :
    ∃ s₀ t₀ c s₁ t₁, t = t₀ ++ c :: t₁ ∧ (∀ x ∈ t₀, p x = false) ∧ p c = true ∧
      SpelledText s₀ t₀ ∧ SpelledText s₁ t₁ := by
  induction htext with
  | nil => exact absurd hmem (by simp)
  | @cons c s t u hchar hrest ih =>
      by_cases hfirst : ∃ x ∈ t, p x = true
      · obtain ⟨x, hx, hpx⟩ := hfirst
        obtain ⟨rfl, -⟩ | hvisible := hchar.visible
        · rw [List.mem_singleton] at hx
          subst hx
          exact ⟨[], [], x, s, u, rfl, by simp, hpx, .nil, hrest⟩
        · exact absurd hpx (by simp [hp x (hvisible x hx)])
      · have hclean : ∀ x ∈ t, p x = false := by
          intro x hx
          exact Bool.eq_false_iff.mpr fun hpx => hfirst ⟨x, hx, hpx⟩
        have hlater : ∃ x ∈ u, p x = true := by
          obtain ⟨x, hx, hpx⟩ := hmem
          rcases List.mem_append.mp hx with hx | hx
          · exact absurd ⟨x, hx, hpx⟩ hfirst
          · exact ⟨x, hx, hpx⟩
        obtain ⟨s₀, t₀, d, s₁, t₁, rfl, ht₀, hpd, hs₀, hs₁⟩ := ih hlater
        exact ⟨c :: s₀, t ++ t₀, d, s₁, t₁, (List.append_assoc ..).symm,
          List.forall_mem_append.mpr ⟨hclean, ht₀⟩, hpd, .cons hchar hs₀, hs₁⟩

theorem SpelledName.ordinary {name : String} {n : List Char} (hname : SpelledName name n)
    (hchars : ∀ c ∈ name.toList, Visible c) : ∀ x ∈ n, Ordinary x := by
  have hquote : Ordinary '"' := by decide
  cases hname with
  | intro hbefore htext hafter =>
      simp only [List.forall_mem_append, List.forall_mem_cons]
      exact ⟨hbefore.ordinary, hquote, fun x hx => Or.inr (htext.visible hchars x hx), hquote,
        hafter.ordinary⟩

/-! ## Quotation marks inside a string -/

/-- A quotation mark only follows a backslash. -/
def Guards (a b : Char) : Prop :=
  b = '"' → a = '\\'

theorem guards_of_notMem {t : List Char} (ht : '"' ∉ t) : t.IsChain Guards := by
  induction t with
  | nil => exact .nil
  | cons c rest ih =>
      rw [List.mem_cons, not_or] at ht
      rw [List.isChain_cons]
      refine ⟨?_, ih ht.2⟩
      rintro b hb rfl
      exact absurd (List.mem_of_mem_head? hb) ht.2

theorem SpelledChar.guards {c : Char} {t : List Char} (hchar : SpelledChar c t) :
    t.IsChain Guards ∧ '"' ∉ t.head? := by
  cases hchar with
  | itself _ hquote _ => exact ⟨.singleton c, by simpa using hquote⟩
  | @letter e _ =>
      have hguard : Guards '\\' e := fun _ => rfl
      exact ⟨.cons_cons hguard (.singleton e), by simp⟩
  | code hdigits =>
      refine ⟨guards_of_notMem ?_, by simp⟩
      simp only [List.mem_cons, not_or]
      exact ⟨by decide, by decide, fun hmem => (visible_of_hexCode hdigits _ hmem).2 rfl⟩
  | pair _ _ hfirst hsecond =>
      refine ⟨guards_of_notMem ?_, by simp⟩
      simp only [List.mem_cons, List.mem_append, not_or]
      exact ⟨by decide, by decide, fun hmem => (visible_of_hexCode hfirst _ hmem).2 rfl,
        by decide, by decide, fun hmem => (visible_of_hexCode hsecond _ hmem).2 rfl⟩

theorem SpelledText.guards {s t : List Char} (htext : SpelledText s t) :
    t.IsChain Guards ∧ '"' ∉ t.head? := by
  induction htext with
  | nil => exact ⟨.nil, by simp⟩
  | @cons c s t u hchar _ ih =>
      obtain ⟨hchain, hhead⟩ := hchar.guards
      refine ⟨List.isChain_append.mpr ⟨hchain, ih.1, ?_⟩, ?_⟩
      · rintro x - y hy rfl
        exact absurd hy ih.2
      · cases t with
        | nil => exact ih.2
        | cons d rest => exact hhead

/-- After the characters of a string, no two quotation marks follow of which the first
stands without a backslash. -/
theorem notMem_of_guards {content back x y : List Char} {c : Char}
    (hcontent : content.IsChain Guards) (hback : '"' ∉ back) (hc : c ≠ '\\')
    (heq : content ++ '"' :: back = x ++ c :: '"' :: y) : '"' ∉ y := by
  have hlast : ∀ z, '"' :: back = z ++ '"' :: y → '"' ∉ y := by
    intro z hz
    cases z with
    | nil =>
        rw [List.nil_append, List.cons.injEq] at hz
        exact hz.2 ▸ hback
    | cons d rest =>
        rw [List.cons_append, List.cons.injEq] at hz
        exact absurd (hz.2 ▸ List.mem_append_right rest List.mem_cons_self) hback
  have hsplit : content ++ '"' :: back = (x ++ [c]) ++ '"' :: y := by simpa using heq
  obtain ⟨z, -, hz⟩ | ⟨z, hz, hy⟩ := List.append_eq_append_iff.mp hsplit
  · exact hlast z hz
  · cases z with
    | nil => exact hlast [] hy.symm
    | cons d rest =>
        obtain ⟨rfl, -⟩ := List.cons.inj hy
        rw [hz, List.append_assoc, List.singleton_append, List.isChain_append_cons_cons]
          at hcontent
        exact absurd (hcontent.2.1 rfl) hc

/-! ## Texts that end inside a string -/

theorem readChars_unclosed {s t : List Char} (htext : SpelledText s t) :
    readChars .plain t = none := by
  induction htext with
  | nil => rfl
  | cons hchar _ ih =>
      rw [readChars_spelledChar hchar, ih]
      rfl

/-- A text that is neither a value nor the end of a list. -/
structure Unreadable (s : List Char) : Prop where
  value (fuel depth : Nat) : readValue fuel depth s = none
  items (after : List Char) : skipSpace s ≠ ']' :: after

namespace Unreadable

theorem string {s t : List Char} (htext : SpelledText s t) : Unreadable ('"' :: t) where
  value fuel depth := by
    cases fuel with
    | zero => rfl
    | succ fuel =>
        rw [readValue_quote, readStringTail, readChars_unclosed htext]
        rfl
  items after := by
    rw [skipSpace_cons (by decide)]
    simp

variable {s : List Char}

theorem padded {blank : List Char} (hblank : Blank blank) (hs : Unreadable s) :
    Unreadable (blank ++ s) where
  value fuel depth := by
    rw [readValue_of_skip (skipSpace_append hblank s), hs.value]
  items after := by
    rw [skipSpace_append hblank]
    exact hs.items after

theorem array (hs : Unreadable s) : Unreadable ('[' :: s) where
  value fuel depth := by
    cases fuel with
    | zero => rfl
    | succ fuel =>
        have hitems : readItems fuel (depth - 1) s = none := by
          cases fuel with
          | zero => rfl
          | succ fuel => rw [readItems_value, hs.value]
        rw [readValue_bracket hs.items, hitems]
        exact ite_self none
  items after := by
    rw [skipSpace_cons (by decide)]
    simp

theorem object {name : String} {n : List Char} (hname : SpelledName name n)
    (hs : Unreadable s) : Unreadable ('{' :: (n ++ ':' :: s)) where
  value fuel depth := by
    cases fuel with
    | zero => rfl
    | succ fuel =>
        have hmembers : readMembers fuel (depth - 1) [] (n ++ ':' :: s) = none := by
          cases fuel with
          | zero => rfl
          | succ fuel => exact readMembers_eq_none hname (hs.value fuel (depth - 1)) []
        rw [readValue_brace (skipSpace_name_ne hname _), hmembers]
        exact ite_self none
  items after := by
    rw [skipSpace_cons (by decide)]
    simp

theorem read_eq_none (hs : Unreadable s) : read (String.ofList s) = none := by
  rw [read, String.toList_ofList, readWithin, hs.value]

end Unreadable

/-! ## Texts around one string -/

/-- The text before and after the only string in a value: it cannot be read before the
string is closed, and afterwards only containers are closed. -/
structure Encloses (front back : List Char) : Prop where
  ordinary : ∀ c ∈ front ++ back, Ordinary c
  notMem : '"' ∉ back
  unreadable {s t : List Char} (htext : SpelledText s t) : Unreadable (front ++ '"' :: t)

/-- The text of a value with a single string. -/
inductive Carries (s : String) : List Char → Prop
  | intro {front text back : List Char} (henclosed : Encloses front back)
      (htext : SpelledText s.toList text) : Carries s (front ++ '"' :: (text ++ '"' :: back))

namespace Encloses

theorem nil : Encloses [] [] where
  ordinary := by simp
  notMem := by simp
  unreadable htext := .string htext

variable {front back : List Char}

theorem padded (henclosed : Encloses front back) {before after : List Char}
    (hbefore : Blank before) (hafter : Blank after) :
    Encloses (before ++ front) (back ++ after) where
  ordinary := by
    have hinner := List.forall_mem_append.mp henclosed.ordinary
    simp only [List.forall_mem_append]
    exact ⟨⟨hbefore.ordinary, hinner.1⟩, hinner.2, hafter.ordinary⟩
  notMem := by
    rw [List.mem_append, not_or]
    exact ⟨henclosed.notMem, fun hmem => absurd (hafter _ hmem) (by decide)⟩
  unreadable htext := by
    rw [List.append_assoc]
    exact (henclosed.unreadable htext).padded hbefore

theorem array (henclosed : Encloses front back) : Encloses ('[' :: front) (back ++ [']']) where
  ordinary := by
    have hends : Ordinary '[' ∧ Ordinary ']' := by decide
    have hinner := List.forall_mem_append.mp henclosed.ordinary
    simp only [List.forall_mem_append, List.forall_mem_cons]
    exact ⟨⟨hends.1, hinner.1⟩, hinner.2, hends.2, by simp⟩
  notMem := by simpa using henclosed.notMem
  unreadable htext := (henclosed.unreadable htext).array

theorem object (henclosed : Encloses front back) {name : String} {n : List Char}
    (hname : SpelledName name n) (hchars : ∀ c ∈ name.toList, Visible c) :
    Encloses ('{' :: (n ++ ':' :: front)) (back ++ ['}']) where
  ordinary := by
    have hends : Ordinary '{' ∧ Ordinary ':' ∧ Ordinary '}' := by decide
    have hinner := List.forall_mem_append.mp henclosed.ordinary
    simp only [List.forall_mem_append, List.forall_mem_cons]
    exact ⟨⟨hends.1, hname.ordinary hchars, hends.2.1, hinner.1⟩, hinner.2, hends.2.2, by simp⟩
  notMem := by simpa using henclosed.notMem
  unreadable htext := by
    rw [List.cons_append, List.append_assoc, List.cons_append]
    exact (henclosed.unreadable htext).object hname

end Encloses

namespace Carries

variable {s : String} {v : Json} {t : List Char}

theorem of_string (ht : Padded (.string s) t) : Carries s t := by
  obtain ⟨digits, hbefore, hvalue, hafter⟩ := ht
  cases hvalue with
  | number hnumber | negative hnumber => cases hnumber
  | string htext => simpa using intro (Encloses.nil.padded hbefore hafter) htext

theorem of_array (hitem : ∀ {u}, Padded v u → Carries s u) (ht : Padded (.array [v]) t) :
    Carries s t := by
  obtain ⟨digits, hbefore, hvalue, hafter⟩ := ht
  cases hvalue with
  | number hnumber | negative hnumber => cases hnumber
  | array hitems =>
      cases hitems with
      | cons _ hothers => cases hothers
      | last hpadded =>
          cases hitem ⟨digits, hpadded⟩ with
          | intro henclosed htext =>
              simpa using intro (henclosed.array.padded hbefore hafter) htext

theorem of_object {name : String} (hchars : ∀ c ∈ name.toList, Visible c)
    (hmember : ∀ {u}, Padded v u → Carries s u) (ht : Padded (.object [(name, v)]) t) :
    Carries s t := by
  obtain ⟨digits, hbefore, hvalue, hafter⟩ := ht
  cases hvalue with
  | number hnumber | negative hnumber => cases hnumber
  | object hmembers =>
      cases hmembers with
      | cons _ _ hothers _ => cases hothers
      | last hname hpadded =>
          cases hmember ⟨digits, hpadded⟩ with
          | intro henclosed htext =>
              simpa using intro ((henclosed.object hname hchars).padded hbefore hafter) htext

theorem not_control (ht : Carries s t) : ∀ c ∈ t, c ∈ ['\t', '\n', '\r'] ∨ 0x20 ≤ c.toNat := by
  have hordinary : ∀ {c}, Ordinary c → c ∈ ['\t', '\n', '\r'] ∨ 0x20 ≤ c.toNat :=
    fun hc => hc.imp_right And.left
  cases ht with
  | intro henclosed htext =>
      have hinner := List.forall_mem_append.mp henclosed.ordinary
      have hquote : Ordinary '"' := by decide
      simp only [List.forall_mem_append, List.forall_mem_cons]
      exact ⟨fun c hc => hordinary (hinner.1 c hc), hordinary hquote,
        fun c hc => Or.inr (htext.not_control c hc), hordinary hquote,
        fun c hc => hordinary (hinner.2 c hc)⟩

end Carries

/-! ## Texts of objects with members -/

theorem exists_blank_of_skipSpace {s rest : List Char} (hskip : skipSpace s = rest) :
    ∃ blank, Blank blank ∧ s = blank ++ rest := by
  refine ⟨s.takeWhile isSpace, ?_, ?_⟩
  · intro c hc
    have hspace : isSpace c = true := List.all_eq_true.mp List.all_takeWhile c hc
    simp only [isSpace, Bool.or_eq_true, beq_iff_eq] at hspace
    simp only [List.mem_cons, List.not_mem_nil, or_false]
    tauto
  · rw [← hskip, skipSpace, List.takeWhile_append_dropWhile]

theorem readChars_of_notMem {s : List Char} (hs : '"' ∉ s) (state : StringState) :
    readChars state s = none := by
  have hconsumed : ∀ {c : Char} {rest : List Char}, '"' ∉ c :: rest → '"' ∉ rest :=
    fun h hmem => h (List.mem_cons_of_mem _ hmem)
  fun_induction readChars state s with
  | case2 rest => exact absurd List.mem_cons_self hs
  | case5 _ _ _ _ _ ih | case7 _ _ _ _ _ ih | case10 _ _ _ _ _ _ _ _ _ _ ih =>
      rw [ih (hconsumed hs)]
      rfl
  | case3 _ _ ih | case6 _ ih | case11 _ _ _ _ _ _ _ _ _ _ ih | case13 _ _ _ _ _ _ _ _ ih
    | case14 _ _ ih | case16 _ _ ih => exact ih (hconsumed hs)
  | _ => rfl

/-- What the reader of members starts with. -/
theorem exists_of_readMembers {fuel depth : Nat} {before : List (String × Json)} {s : List Char}
    {found : List (String × Json) × List Char}
    (hread : readMembers fuel depth before s = some found) :
    ∃ rest, skipSpace s = '"' :: rest ∧ '"' ∈ rest := by
  cases fuel with
  | zero => exact absurd hread (by simp [readMembers])
  | succ fuel =>
      rw [readMembers] at hread
      split at hread
      case h_1 rest hskip =>
          refine ⟨rest, hskip, ?_⟩
          by_contra hmem
          rw [readStringTail, readChars_of_notMem hmem] at hread
          exact absurd hread (by simp)
      case h_2 => exact absurd hread (by simp)

theorem readUnsignedNumber_ne_object {negative : Bool} {s rest : List Char}
    {members : List (String × Json)} :
    readUnsignedNumber negative s ≠ some (.object members, rest) := by
  grind [readUnsignedNumber]

theorem readScalar_ne_object {s rest : List Char} {members : List (String × Json)} :
    readScalar s ≠ some (.object members, rest) := by
  have hnumber : readJsonNumber s ≠ some (.object members, rest) := by
    rw [readJsonNumber.eq_def]
    split
    · split
      · simp
      · exact readUnsignedNumber_ne_object
    · exact readUnsignedNumber_ne_object
  rw [readScalar]
  repeat (split; · simp)
  exact hnumber

/-- Only between braces an object is read that has members. -/
theorem exists_of_readValue_object {fuel depth : Nat} {s rest : List Char}
    {members : List (String × Json)} (hne : members ≠ [])
    (hread : readValue fuel depth s = some (.object members, rest)) :
    ∃ inner fuel depth found, skipSpace s = '{' :: inner ∧
      readMembers fuel depth [] inner = some found := by
  cases fuel with
  | zero => exact absurd hread (by simp [readValue])
  | succ fuel =>
      rw [readValue] at hread
      split at hread
      case h_1 => exact absurd hread (by simp)
      case h_2 =>
          obtain ⟨found, -, hfound⟩ := Option.map_eq_some_iff.mp hread
          exact absurd (congrArg Prod.fst hfound) (by simp)
      case h_3 =>
          split at hread
          · exact absurd hread (by simp)
          split at hread
          · exact absurd hread (by simp)
          · obtain ⟨found, -, hfound⟩ := Option.map_eq_some_iff.mp hread
            exact absurd (congrArg Prod.fst hfound) (by simp)
      case h_4 inner hskip =>
          split at hread
          · exact absurd hread (by simp [hne.symm])
          split at hread
          · exact absurd hread (by simp)
          case h_2 inside =>
            obtain ⟨found, hfound, -⟩ := Option.map_eq_some_iff.mp hread
            exact ⟨inner, fuel, inside, found, hskip, hfound⟩
      case h_5 => exact absurd hread readScalar_ne_object

/-- The text of an object with members has a quotation mark without a backslash, and
another one after it. -/
theorem exists_quotes_of_read {s : String} {members : List (String × Json)}
    (hne : members ≠ []) (hread : read s = some (.object members)) :
    ∃ x c y, s.toList = x ++ c :: '"' :: y ∧ c ≠ '\\' ∧ '"' ∈ y := by
  rw [read, readWithin] at hread
  cases hvalue : readValue (s.toList.length + 1) maxDepth s.toList with
  | none => exact absurd hread (by simp [hvalue])
  | some found =>
      obtain ⟨v, rest⟩ := found
      have hv : v = .object members := by
        rw [hvalue] at hread
        dsimp only at hread
        split at hread
        · exact Option.some.inj hread
        · exact absurd hread (by simp)
      subst hv
      obtain ⟨inner, fuel, depth, found, hbrace, hmembers⟩ :=
        exists_of_readValue_object hne hvalue
      obtain ⟨after, hquote, hmem⟩ := exists_of_readMembers hmembers
      obtain ⟨before, -, hs⟩ := exists_blank_of_skipSpace hbrace
      obtain ⟨blank, hblank, hinner⟩ := exists_blank_of_skipSpace hquote
      -- The mark follows the last of this white space, or the brace itself.
      obtain ⟨init, c, hlast⟩ := (List.eq_nil_or_concat' ('{' :: blank)).resolve_left (by simp)
      refine ⟨before ++ init, c, after, ?_, ?_, hmem⟩
      · rw [hs, hinner, ← List.cons_append, hlast]
        simp
      · rintro rfl
        have hslash : '\\' ∈ '{' :: blank := hlast ▸ List.mem_concat_self
        rcases List.mem_cons.mp hslash with hbrace | hspace
        · exact absurd hbrace (by decide)
        · exact absurd (hblank _ hspace) (by decide)

end Parley.Json
