import Parley.Proofs.Json.Tokens

/-!
# Reading every text of a value

The reader finds the value of each of its texts in which no number is too long.  Its budget
only has to exceed the length of that text, and its depth has to reach the nesting of the
value.
-/

namespace Parley.Json

theorem isSpace_of_isDigit {c : Char} (hc : c.isDigit = true) : isSpace c = false := by
  rw [isSpace]
  simp only [Bool.or_eq_false_iff, beq_eq_false_iff_ne]
  refine ⟨⟨⟨?_, ?_⟩, ?_⟩, ?_⟩ <;> (rintro rfl; exact absurd hc (by decide))

theorem notMem_of_isDigit {c : Char} (hc : c.isDigit = true) : c ∉ ['"', '[', '{', ']'] := by
  intro hmem
  simp only [List.mem_cons, List.not_mem_nil, or_false] at hmem
  rcases hmem with rfl | rfl | rfl | rfl <;> exact absurd hc (by decide)

/-- The first character of a value tells it from white space and from the end of a
container. -/
theorem Spelled.head {digits : Nat} {v : Json} {t : List Char} (hvalue : Spelled digits v t) :
    ∃ c rest, t = c :: rest ∧ isSpace c = false ∧ c ≠ ']' := by
  cases hvalue with
  | number hnumber =>
      obtain ⟨c, rest, rfl, hc⟩ := head?_number hnumber
      refine ⟨c, rest, rfl, isSpace_of_isDigit hc, ?_⟩
      rintro rfl
      exact notMem_of_isDigit hc (by decide)
  | null => exact ⟨'n', _, rfl, by decide, by decide⟩
  | isTrue => exact ⟨'t', _, rfl, by decide, by decide⟩
  | isFalse => exact ⟨'f', _, rfl, by decide, by decide⟩
  | negative hnumber => exact ⟨'-', _, rfl, by decide, by decide⟩
  | string htext => exact ⟨'"', _, rfl, by decide, by decide⟩
  | emptyArray hblank => exact ⟨'[', _, rfl, by decide, by decide⟩
  | array hitems => exact ⟨'[', _, rfl, by decide, by decide⟩
  | emptyObject hblank => exact ⟨'{', _, rfl, by decide, by decide⟩
  | object hmembers => exact ⟨'{', _, rfl, by decide, by decide⟩

theorem readValue_of_skip {s s' : List Char} (hskip : skipSpace s = skipSpace s')
    (fuel depth : Nat) : readValue fuel depth s = readValue fuel depth s' := by
  cases fuel with
  | zero => rfl
  | succ fuel => rw [readValue, readValue, hskip]

theorem readValue_scalar {c : Char} (hspace : isSpace c = false)
    (hopening : c ∉ ['"', '[', '{', ']']) (fuel depth : Nat) (s : List Char) :
    readValue (fuel + 1) depth (c :: s) = readScalar (c :: s) := by
  rw [readValue, skipSpace_cons hspace]
  split
  case h_1 heq => cases heq
  case h_2 heq => exact absurd (by rw [(List.cons.inj heq).1]; decide) hopening
  case h_3 heq => exact absurd (by rw [(List.cons.inj heq).1]; decide) hopening
  case h_4 heq => exact absurd (by rw [(List.cons.inj heq).1]; decide) hopening
  case h_5 => rfl

theorem readValue_number {digits : Nat} {v : Json} {t : List Char}
    (hnumber : SpelledNumber digits false v t) (fuel depth : Nat) (rest : List Char) :
    readValue (fuel + 1) depth (t ++ rest) = readUnsignedNumber false (t ++ rest) := by
  rw [← readScalar_number hnumber]
  obtain ⟨c, tail, rfl, hc⟩ := head?_number hnumber
  exact readValue_scalar (isSpace_of_isDigit hc) (notMem_of_isDigit hc) fuel depth _

theorem readValue_negative {digits : Nat} {v : Json} {t : List Char}
    (hnumber : SpelledNumber digits true v t) (fuel depth : Nat) (rest : List Char) :
    readValue (fuel + 1) depth ('-' :: (t ++ rest)) = readUnsignedNumber true (t ++ rest) := by
  rw [readValue_scalar (by decide) (by decide)]
  exact readScalar_negative hnumber rest

theorem readValue_quote (fuel depth : Nat) (s : List Char) :
    readValue (fuel + 1) depth ('"' :: s) =
      (readStringTail s).map fun found => (.string found.1, found.2) := rfl

theorem readValue_openBracket (fuel depth : Nat) (s : List Char) :
    readValue (fuel + 1) depth ('[' :: s) =
      match skipSpace s with
      | ']' :: after => some (.array [], after)
      | _ =>
          match depth with
          | 0 => none
          | depth + 1 =>
              (readItems fuel depth s).map fun found => (.array found.1, found.2) := rfl

theorem readValue_emptyBracket {s after : List Char} (hs : skipSpace s = ']' :: after)
    (fuel depth : Nat) : readValue (fuel + 1) depth ('[' :: s) = some (.array [], after) := by
  rw [readValue_openBracket, hs]
  rfl

/-- Brackets with contents are read one container deeper. -/
theorem readValue_bracket {s : List Char} (hs : ∀ after, skipSpace s ≠ ']' :: after)
    (fuel depth : Nat) :
    readValue (fuel + 1) depth ('[' :: s) =
      if depth = 0 then none
      else (readItems fuel (depth - 1) s).map fun found => (.array found.1, found.2) := by
  rw [readValue_openBracket]
  split
  case h_1 after heq => exact absurd heq (hs after)
  case h_2 => cases depth <;> rfl

theorem readValue_openBrace (fuel depth : Nat) (s : List Char) :
    readValue (fuel + 1) depth ('{' :: s) =
      match skipSpace s with
      | '}' :: after => some (.object [], after)
      | _ =>
          match depth with
          | 0 => none
          | depth + 1 =>
              (readMembers fuel depth [] s).map fun found => (.object found.1, found.2) := rfl

theorem readValue_emptyBrace {s after : List Char} (hs : skipSpace s = '}' :: after)
    (fuel depth : Nat) : readValue (fuel + 1) depth ('{' :: s) = some (.object [], after) := by
  rw [readValue_openBrace, hs]
  rfl

theorem readValue_brace {s : List Char} (hs : ∀ after, skipSpace s ≠ '}' :: after)
    (fuel depth : Nat) :
    readValue (fuel + 1) depth ('{' :: s) =
      if depth = 0 then none
      else (readMembers fuel (depth - 1) [] s).map fun found => (.object found.1, found.2) := by
  rw [readValue_openBrace]
  split
  case h_1 after heq => exact absurd heq (hs after)
  case h_2 => cases depth <;> rfl

theorem readItems_value (fuel depth : Nat) (s : List Char) :
    readItems (fuel + 1) depth s =
      match readValue fuel depth s with
      | none => none
      | some (v, after) =>
          match skipSpace after with
          | ']' :: rest => some ([v], rest)
          | ',' :: rest => (readItems fuel depth rest).map fun found => (v :: found.1, found.2)
          | _ => none := rfl

theorem readItems_succ (fuel depth : Nat) {s after : List Char} {v : Json}
    (hvalue : readValue fuel depth s = some (v, after)) :
    readItems (fuel + 1) depth s =
      match skipSpace after with
      | ']' :: rest => some ([v], rest)
      | ',' :: rest => (readItems fuel depth rest).map fun found => (v :: found.1, found.2)
      | _ => none := by
  rw [readItems_value, hvalue]

theorem exists_of_spelledName {name : String} {n : List Char} (hname : SpelledName name n)
    (s : List Char) :
    ∃ text after, skipSpace (n ++ ':' :: s) = '"' :: text ∧
      readStringTail text = some (name, after) ∧ skipSpace after = ':' :: s := by
  cases hname with
  | @intro blank text space hblank htext hspace =>
      refine ⟨text ++ '"' :: (space ++ ':' :: s), space ++ ':' :: s, ?_,
        readStringTail_spelledText htext _, ?_⟩
      · rw [List.append_assoc, skipSpace_append hblank, List.cons_append,
          skipSpace_cons (by decide), List.append_assoc, List.cons_append]
      · rw [skipSpace_append hspace, skipSpace_cons (by decide)]

theorem readMembers_succ {name : String} {n : List Char} (hname : SpelledName name n)
    (fuel depth : Nat) {s after : List Char} {v : Json}
    (hvalue : readValue fuel depth s = some (v, after)) (before : List (String × Json)) :
    readMembers (fuel + 1) depth before (n ++ ':' :: s) =
      match skipSpace after with
      | '}' :: rest => some (insertMember name v before, rest)
      | ',' :: rest => readMembers fuel depth (insertMember name v before) rest
      | _ => none := by
  obtain ⟨text, afterName, hquote, htail, hcolon⟩ := exists_of_spelledName hname s
  have hread := readMembers.eq_def (fuel + 1) depth before (n ++ ':' :: s)
  simp only [hquote, htail, hcolon, hvalue] at hread
  exact hread

theorem readMembers_eq_none {name : String} {n : List Char} (hname : SpelledName name n)
    {fuel depth : Nat} {s : List Char} (hvalue : readValue fuel depth s = none)
    (before : List (String × Json)) :
    readMembers (fuel + 1) depth before (n ++ ':' :: s) = none := by
  obtain ⟨text, afterName, hquote, htail, hcolon⟩ := exists_of_spelledName hname s
  simp only [readMembers, hquote, htail, hcolon, hvalue]

/-- A member with a new name is added at the end. -/
theorem insertMember_of_new {name : String} {before : List (String × Json)}
    (hnew : name ∉ before.map Prod.fst) (v : Json) :
    insertMember name v before = before ++ [(name, v)] := by
  induction before with
  | nil => rfl
  | cons member others ih =>
      rw [List.map_cons, List.mem_cons, not_or] at hnew
      rw [insertMember, if_neg (Ne.symm hnew.1), ih hnew.2]
      rfl

/-- White space or the end of an item ends a number. -/
theorem ends_append {blank : List Char} (hblank : Blank blank) {c : Char}
    (hc : c ∈ [',', ']', '}']) (rest : List Char) : Ends (blank ++ c :: rest) := by
  intro d hd
  cases blank with
  | nil =>
      rw [List.nil_append, List.head?_cons, Option.mem_some_iff] at hd
      exact List.mem_append_right [' ', '\t', '\n', '\r'] (hd ▸ hc)
  | cons space tail =>
      rw [List.cons_append, List.head?_cons, Option.mem_some_iff] at hd
      exact List.mem_append_left [',', ']', '}'] (hd ▸ hblank space List.mem_cons_self)

theorem ends_blank {blank : List Char} (hblank : Blank blank) : Ends blank :=
  fun c hc => List.mem_append_left [',', ']', '}'] (hblank c (List.mem_of_mem_head? hc))

theorem isSpace_of_delimiter {c : Char} (hc : c ∈ [',', ']', '}']) : isSpace c = false := by
  simp only [List.mem_cons, List.not_mem_nil, or_false] at hc
  rcases hc with rfl | rfl | rfl <;> rfl

theorem skipSpace_blank {blank : List Char} (hblank : Blank blank) {c : Char}
    (hc : c ∈ [',', ']', '}']) (rest : List Char) :
    skipSpace (blank ++ c :: rest) = c :: rest := by
  rw [skipSpace_append hblank, skipSpace_cons (isSpace_of_delimiter hc)]

/-- What is between brackets does not start with the closing one. -/
theorem skipSpace_items_ne {digits : Nat} {items : List Json} {t : List Char}
    (hitems : SpelledItems digits items t) (s after : List Char) :
    skipSpace (t ++ s) ≠ ']' :: after := by
  have hpadded : ∀ {v : Json} {t : List Char} (s : List Char), PaddedWithin digits v t →
      skipSpace (t ++ s) ≠ ']' :: after := by
    intro v t s hvalue
    cases hvalue with
    | intro hbefore hvalue hafter =>
        obtain ⟨c, rest, rfl, hspace, hne⟩ := hvalue.head
        rw [List.append_assoc, skipSpace_append hbefore, List.cons_append, List.cons_append,
          skipSpace_cons hspace]
        intro heq
        exact hne (List.cons.inj heq).1
  cases hitems with
  | last hvalue => exact hpadded s hvalue
  | cons hvalue hothers =>
      rw [List.append_assoc]
      exact hpadded _ hvalue

theorem skipSpace_name_ne {name : String} {n : List Char} (hname : SpelledName name n)
    (s after : List Char) : skipSpace (n ++ s) ≠ '}' :: after := by
  cases hname with
  | intro hbefore _ _ =>
      rw [List.append_assoc, skipSpace_append hbefore, List.cons_append,
        skipSpace_cons (by decide)]
      intro heq
      exact absurd (List.cons.inj heq).1 (by decide)

theorem skipSpace_members_ne {digits : Nat} {members : List (String × Json)} {t : List Char}
    (hmembers : SpelledMembers digits members t) (s after : List Char) :
    skipSpace (t ++ s) ≠ '}' :: after := by
  cases hmembers with
  | last hname _ =>
      rw [List.append_assoc]
      exact skipSpace_name_ne hname _ after
  | cons hname _ _ _ =>
      rw [List.append_assoc]
      exact skipSpace_name_ne hname _ after

theorem nesting_number {digits : Nat} {negative : Bool} {v : Json} {t : List Char}
    (hnumber : SpelledNumber digits negative v t) : nesting v = 0 := by
  cases hnumber <;> rfl

theorem nesting_array {digits : Nat} {items : List Json} {t : List Char}
    (hitems : SpelledItems digits items t) :
    nesting (.array items) = nestingItems items + 1 := by
  cases hitems <;> rfl

theorem nesting_object {digits : Nat} {members : List (String × Json)} {t : List Char}
    (hmembers : SpelledMembers digits members t) :
    nesting (.object members) = nestingMembers members + 1 := by
  cases hmembers <;> rfl

/-! ## Budgets -/

/-- A budget reads every text that is shorter than it and has no number that is too long,
whatever follows the text, if that cannot continue a number. -/
structure Reads (fuel : Nat) : Prop where
  value {v : Json} {t : List Char} (hvalue : Spelled maxDigits v t) (hfuel : t.length < fuel)
    {depth : Nat} (hdepth : nesting v ≤ depth) {rest : List Char} (hrest : Ends rest) :
    readValue fuel depth (t ++ rest) = some (v, rest)
  items {vs : List Json} {t : List Char} (hitems : SpelledItems maxDigits vs t)
    (hfuel : t.length + 1 < fuel) {depth : Nat} (hdepth : nestingItems vs ≤ depth)
    (rest : List Char) :
    readItems fuel depth (t ++ ']' :: rest) = some (vs, rest)
  members {ms : List (String × Json)} {t : List Char} (hmembers : SpelledMembers maxDigits ms t)
    (hfuel : t.length + 1 < fuel) {depth : Nat} (hdepth : nestingMembers ms ≤ depth)
    {before : List (String × Json)}
    (hnew : ∀ name ∈ ms.map Prod.fst, name ∉ before.map Prod.fst) (rest : List Char) :
    readMembers fuel depth before (t ++ '}' :: rest) = some (before ++ ms, rest)

section Succ

variable {fuel : Nat}

/-- White space before a value is read with it, and white space after it is left. -/
theorem Reads.padded (hreads : Reads fuel) {v : Json} {t : List Char}
    (hvalue : PaddedWithin maxDigits v t) (hfuel : t.length < fuel) {depth : Nat}
    (hdepth : nesting v ≤ depth) {c : Char} (hc : c ∈ [',', ']', '}']) (rest : List Char) :
    ∃ after, readValue fuel depth (t ++ c :: rest) = some (v, after) ∧
      skipSpace after = c :: rest := by
  cases hvalue with
  | @intro _ before t after hbefore hspelled hafter =>
      rw [List.length_append, List.length_append] at hfuel
      have hlength : t.length < fuel := by omega
      refine ⟨after ++ c :: rest, ?_, ?_⟩
      · rw [← hreads.value hspelled hlength hdepth (ends_append hafter hc rest)]
        apply readValue_of_skip
        rw [List.append_assoc, skipSpace_append hbefore, List.append_assoc]
      · exact skipSpace_blank hafter hc rest

theorem Reads.array (hreads : Reads fuel) {vs : List Json} {t : List Char}
    (hitems : SpelledItems maxDigits vs t) (hfuel : t.length + 1 < fuel) {depth : Nat}
    (hdepth : nestingItems vs < depth) (rest : List Char) :
    readValue (fuel + 1) depth ('[' :: (t ++ ']' :: rest)) = some (.array vs, rest) := by
  rw [readValue_bracket (skipSpace_items_ne hitems _), if_neg (Nat.ne_zero_of_lt hdepth),
    hreads.items hitems hfuel (Nat.le_sub_one_of_lt hdepth) rest]
  rfl

theorem Reads.object (hreads : Reads fuel) {ms : List (String × Json)} {t : List Char}
    (hmembers : SpelledMembers maxDigits ms t) (hfuel : t.length + 1 < fuel) {depth : Nat}
    (hdepth : nestingMembers ms < depth) (rest : List Char) :
    readValue (fuel + 1) depth ('{' :: (t ++ '}' :: rest)) = some (.object ms, rest) := by
  have hnew : ∀ name ∈ ms.map Prod.fst, name ∉ ([] : List (String × Json)).map Prod.fst :=
    fun _ _ => List.not_mem_nil
  rw [readValue_brace (skipSpace_members_ne hmembers _), if_neg (Nat.ne_zero_of_lt hdepth),
    hreads.members hmembers hfuel (Nat.le_sub_one_of_lt hdepth) hnew rest]
  rfl

theorem Reads.value_succ (hreads : Reads fuel) {v : Json} {t : List Char}
    (hvalue : Spelled maxDigits v t) (hfuel : t.length < fuel + 1) {depth : Nat}
    (hdepth : nesting v ≤ depth) {rest : List Char} (hrest : Ends rest) :
    readValue (fuel + 1) depth (t ++ rest) = some (v, rest) := by
  cases hvalue with
  | null => exact readValue_scalar (by decide) (by decide) fuel depth _
  | isTrue => exact readValue_scalar (by decide) (by decide) fuel depth _
  | isFalse => exact readValue_scalar (by decide) (by decide) fuel depth _
  | number hnumber =>
      rw [readValue_number hnumber, readUnsignedNumber_spelled hnumber hrest]
  | negative hnumber =>
      rw [List.cons_append, readValue_negative hnumber, readUnsignedNumber_spelled hnumber hrest]
  | string htext =>
      rw [List.cons_append, List.append_assoc, List.singleton_append, readValue_quote,
        readStringTail_spelledText htext]
      rfl
  | emptyArray hblank =>
      rw [List.cons_append, List.append_assoc, List.singleton_append]
      exact readValue_emptyBracket (skipSpace_blank hblank (by decide) rest) fuel depth
  | array hitems =>
      rw [nesting_array hitems] at hdepth
      rw [List.length_cons, List.length_append, List.length_singleton] at hfuel
      rw [List.cons_append, List.append_assoc, List.singleton_append]
      exact hreads.array hitems (by omega) hdepth rest
  | emptyObject hblank =>
      rw [List.cons_append, List.append_assoc, List.singleton_append]
      exact readValue_emptyBrace (skipSpace_blank hblank (by decide) rest) fuel depth
  | object hmembers =>
      rw [nesting_object hmembers] at hdepth
      rw [List.length_cons, List.length_append, List.length_singleton] at hfuel
      rw [List.cons_append, List.append_assoc, List.singleton_append]
      exact hreads.object hmembers (by omega) hdepth rest

theorem Reads.items_succ (hreads : Reads fuel) {vs : List Json} {t : List Char}
    (hitems : SpelledItems maxDigits vs t) (hfuel : t.length + 1 < fuel + 1) {depth : Nat}
    (hdepth : nestingItems vs ≤ depth) (rest : List Char) :
    readItems (fuel + 1) depth (t ++ ']' :: rest) = some (vs, rest) := by
  cases hitems with
  | last hvalue =>
      rw [nestingItems, Nat.max_le] at hdepth
      obtain ⟨after, hread, hskip⟩ := hreads.padded hvalue (Nat.lt_of_succ_lt_succ hfuel)
        hdepth.1 (by decide : ']' ∈ [',', ']', '}']) rest
      rw [readItems_succ fuel depth hread, hskip]
      rfl
  | @cons v others t u hvalue hothers =>
      rw [nestingItems, Nat.max_le] at hdepth
      rw [List.length_append, List.length_cons] at hfuel
      have hfirst : t.length < fuel := by omega
      have hlater : u.length + 1 < fuel := by omega
      obtain ⟨after, hread, hskip⟩ := hreads.padded hvalue hfirst hdepth.1
        (by decide : ',' ∈ [',', ']', '}']) (u ++ ']' :: rest)
      rw [List.append_assoc, List.cons_append, readItems_succ fuel depth hread, hskip]
      change (readItems fuel depth (u ++ ']' :: rest)).map _ = _
      rw [hreads.items hothers hlater hdepth.2]
      rfl

theorem Reads.members_succ (hreads : Reads fuel) {ms : List (String × Json)} {t : List Char}
    (hmembers : SpelledMembers maxDigits ms t) (hfuel : t.length + 1 < fuel + 1) {depth : Nat}
    (hdepth : nestingMembers ms ≤ depth) {before : List (String × Json)}
    (hnew : ∀ name ∈ ms.map Prod.fst, name ∉ before.map Prod.fst) (rest : List Char) :
    readMembers (fuel + 1) depth before (t ++ '}' :: rest) = some (before ++ ms, rest) := by
  cases hmembers with
  | @last name v n t hname hvalue =>
      rw [nestingMembers, Nat.max_le] at hdepth
      rw [List.length_append, List.length_cons] at hfuel
      have hfirst : t.length < fuel := by omega
      obtain ⟨after, hread, hskip⟩ := hreads.padded hvalue hfirst hdepth.1
        (by decide : '}' ∈ [',', ']', '}']) rest
      rw [List.append_assoc, List.cons_append, readMembers_succ hname fuel depth hread, hskip]
      change some (insertMember name v before, rest) = _
      rw [insertMember_of_new (hnew name List.mem_cons_self)]
  | @cons name v others n t u hname hvalue hothers hdistinct =>
      rw [nestingMembers, Nat.max_le] at hdepth
      rw [List.length_append, List.length_cons, List.length_append, List.length_cons] at hfuel
      have hfirst : t.length < fuel := by omega
      have hlater : u.length + 1 < fuel := by omega
      obtain ⟨after, hread, hskip⟩ := hreads.padded hvalue hfirst hdepth.1
        (by decide : ',' ∈ [',', ']', '}']) (u ++ '}' :: rest)
      have hnext : ∀ other ∈ others.map Prod.fst,
          other ∉ (before ++ [(name, v)]).map Prod.fst := by
        intro other hother hmem
        rw [List.map_append, List.mem_append] at hmem
        obtain hbefore | hthis := hmem
        · exact hnew other (List.mem_cons_of_mem _ hother) hbefore
        · rw [List.map_singleton, List.mem_singleton] at hthis
          rw [hthis] at hother
          exact hdistinct hother
      rw [List.append_assoc, List.cons_append, List.append_assoc, List.cons_append,
        readMembers_succ hname fuel depth hread, hskip]
      change readMembers fuel depth (insertMember name v before) (u ++ '}' :: rest) = _
      rw [insertMember_of_new (hnew name List.mem_cons_self),
        hreads.members hothers hlater hdepth.2 hnext, List.append_assoc]
      rfl

end Succ

theorem reads (fuel : Nat) : Reads fuel := by
  -- Each reader calls the others with the budget below its own.
  induction fuel with
  | zero =>
      exact ⟨fun _ hfuel => absurd hfuel (Nat.not_lt_zero _),
        fun _ hfuel => absurd hfuel (Nat.not_lt_zero _),
        fun _ hfuel => absurd hfuel (Nat.not_lt_zero _)⟩
  | succ fuel ih => exact ⟨ih.value_succ, ih.items_succ, ih.members_succ⟩

/-! ## Texts -/

/-- Every text of a value is read as this value, unless it is nested too deeply or has too
long a number. -/
theorem readWithin_padded {v : Json} {t : List Char} (hvalue : PaddedWithin maxDigits v t)
    {depth : Nat} (hdepth : nesting v ≤ depth) : readWithin depth t = some v := by
  cases hvalue with
  | @intro _ before t after hbefore hspelled hafter =>
      have hread : readValue ((before ++ (t ++ after)).length + 1) depth
          (before ++ (t ++ after)) = some (v, after) := by
        rw [readValue_of_skip (skipSpace_append hbefore _)]
        refine (reads _).value hspelled ?_ hdepth (ends_blank hafter)
        rw [List.length_append, List.length_append]
        omega
      have hskip : skipSpace after = [] := by
        have hnil := skipSpace_append hafter []
        rw [List.append_nil] at hnil
        exact hnil
      rw [readWithin, hread]
      dsimp only
      rw [hskip]
      rfl

end Parley.Json
