import Parley.Proofs.Json.Reading

/-!
# Texts that are nested too deeply or have too long numbers

The reader gives up at the container that is one too many and at a number that is too long,
whatever stands before and after it.  So a text of a value is read exactly if neither occurs,
and is then read as this value.
-/

namespace Parley.Json

/-- A budget that would do for a text is of no use if the text is nested too deeply or has a
number that is too long. -/
structure Refuses (fuel : Nat) : Prop where
  value {digits : Nat} {v : Json} {t : List Char} (hvalue : Spelled digits v t)
    (hfuel : t.length < fuel) {depth : Nat}
    (hbad : ¬(Spelled maxDigits v t ∧ nesting v ≤ depth)) {rest : List Char}
    (hrest : Ends rest) : readValue fuel depth (t ++ rest) = none
  items {digits : Nat} {vs : List Json} {t : List Char} (hitems : SpelledItems digits vs t)
    (hfuel : t.length + 1 < fuel) {depth : Nat}
    (hbad : ¬(SpelledItems maxDigits vs t ∧ nestingItems vs ≤ depth)) (rest : List Char) :
    readItems fuel depth (t ++ ']' :: rest) = none
  members {digits : Nat} {ms : List (String × Json)} {t : List Char}
    (hmembers : SpelledMembers digits ms t) (hfuel : t.length + 1 < fuel) {depth : Nat}
    (hbad : ¬(SpelledMembers maxDigits ms t ∧ nestingMembers ms ≤ depth))
    (before : List (String × Json)) (rest : List Char) :
    readMembers fuel depth before (t ++ '}' :: rest) = none

section Succ

variable {fuel digits : Nat}

theorem Refuses.padded (hrefuses : Refuses fuel) {v : Json} {t : List Char}
    (hvalue : PaddedWithin digits v t) (hfuel : t.length < fuel) {depth : Nat}
    (hbad : ¬(PaddedWithin maxDigits v t ∧ nesting v ≤ depth)) {rest : List Char}
    (hrest : ∀ {after : List Char}, Blank after → Ends (after ++ rest)) :
    readValue fuel depth (t ++ rest) = none := by
  cases hvalue with
  | @intro _ before t after hbefore hspelled hafter =>
      rw [List.length_append, List.length_append] at hfuel
      have hlength : t.length < fuel := by omega
      have hinner : ¬(Spelled maxDigits v t ∧ nesting v ≤ depth) :=
        fun h => hbad ⟨.intro hbefore h.1 hafter, h.2⟩
      rw [← hrefuses.value hspelled hlength hinner (hrest hafter)]
      apply readValue_of_skip
      rw [List.append_assoc, skipSpace_append hbefore, List.append_assoc]

theorem Refuses.delimited (hrefuses : Refuses fuel) {v : Json} {t : List Char}
    (hvalue : PaddedWithin digits v t) (hfuel : t.length < fuel) {depth : Nat}
    (hbad : ¬(PaddedWithin maxDigits v t ∧ nesting v ≤ depth)) {c : Char}
    (hc : c ∈ [',', ']', '}']) (rest : List Char) :
    readValue fuel depth (t ++ c :: rest) = none :=
  hrefuses.padded hvalue hfuel hbad fun hafter => ends_append hafter hc rest

theorem Refuses.array (hrefuses : Refuses fuel) {vs : List Json} {t : List Char}
    (hitems : SpelledItems digits vs t) (hfuel : t.length + 1 < fuel) {depth : Nat}
    (hbad : ¬(SpelledItems maxDigits vs t ∧ nestingItems vs < depth)) (rest : List Char) :
    readValue (fuel + 1) depth ('[' :: (t ++ ']' :: rest)) = none := by
  rw [readValue_bracket (skipSpace_items_ne hitems _)]
  split
  case isTrue => rfl
  case isFalse hdepth =>
      have hinner : ¬(SpelledItems maxDigits vs t ∧ nestingItems vs ≤ depth - 1) :=
        fun h => hbad ⟨h.1, by omega⟩
      rw [hrefuses.items hitems hfuel hinner rest]
      rfl

theorem Refuses.object (hrefuses : Refuses fuel) {ms : List (String × Json)} {t : List Char}
    (hmembers : SpelledMembers digits ms t) (hfuel : t.length + 1 < fuel) {depth : Nat}
    (hbad : ¬(SpelledMembers maxDigits ms t ∧ nestingMembers ms < depth)) (rest : List Char) :
    readValue (fuel + 1) depth ('{' :: (t ++ '}' :: rest)) = none := by
  rw [readValue_brace (skipSpace_members_ne hmembers _)]
  split
  case isTrue => rfl
  case isFalse hdepth =>
      have hinner : ¬(SpelledMembers maxDigits ms t ∧ nestingMembers ms ≤ depth - 1) :=
        fun h => hbad ⟨h.1, by omega⟩
      rw [hrefuses.members hmembers hfuel hinner [] rest]
      rfl

theorem Refuses.value_succ (hrefuses : Refuses fuel) {v : Json} {t : List Char}
    (hvalue : Spelled digits v t) (hfuel : t.length < fuel + 1) {depth : Nat}
    (hbad : ¬(Spelled maxDigits v t ∧ nesting v ≤ depth)) {rest : List Char}
    (hrest : Ends rest) : readValue (fuel + 1) depth (t ++ rest) = none := by
  cases hvalue with
  | null => exact absurd ⟨.null, Nat.zero_le depth⟩ hbad
  | isTrue => exact absurd ⟨.isTrue, Nat.zero_le depth⟩ hbad
  | isFalse => exact absurd ⟨.isFalse, Nat.zero_le depth⟩ hbad
  | string htext => exact absurd ⟨.string htext, Nat.zero_le depth⟩ hbad
  | emptyArray hblank => exact absurd ⟨.emptyArray hblank, Nat.zero_le depth⟩ hbad
  | emptyObject hblank => exact absurd ⟨.emptyObject hblank, Nat.zero_le depth⟩ hbad
  | number hnumber =>
      have hdepth : nesting v ≤ depth := nesting_number hnumber ▸ Nat.zero_le depth
      rw [readValue_number hnumber]
      exact readUnsignedNumber_of_long hnumber (fun h => hbad ⟨.number h, hdepth⟩) hrest
  | negative hnumber =>
      have hdepth : nesting v ≤ depth := nesting_number hnumber ▸ Nat.zero_le depth
      rw [List.cons_append, readValue_negative hnumber]
      exact readUnsignedNumber_of_long hnumber (fun h => hbad ⟨.negative h, hdepth⟩) hrest
  | array hitems =>
      rw [List.length_cons, List.length_append, List.length_singleton] at hfuel
      rw [List.cons_append, List.append_assoc, List.singleton_append]
      refine hrefuses.array hitems (by omega) (fun h => hbad ⟨.array h.1, ?_⟩) rest
      exact nesting_array hitems ▸ h.2
  | object hmembers =>
      rw [List.length_cons, List.length_append, List.length_singleton] at hfuel
      rw [List.cons_append, List.append_assoc, List.singleton_append]
      refine hrefuses.object hmembers (by omega) (fun h => hbad ⟨.object h.1, ?_⟩) rest
      exact nesting_object hmembers ▸ h.2

theorem Refuses.items_succ (hrefuses : Refuses fuel) {vs : List Json} {t : List Char}
    (hitems : SpelledItems digits vs t) (hfuel : t.length + 1 < fuel + 1) {depth : Nat}
    (hbad : ¬(SpelledItems maxDigits vs t ∧ nestingItems vs ≤ depth)) (rest : List Char) :
    readItems (fuel + 1) depth (t ++ ']' :: rest) = none := by
  cases hitems with
  | @last v t hvalue =>
      have hitem : ¬(PaddedWithin maxDigits v t ∧ nesting v ≤ depth) :=
        fun h => hbad ⟨.last h.1, by simpa [nestingItems] using h.2⟩
      rw [readItems_value,
        hrefuses.delimited hvalue (Nat.lt_of_succ_lt_succ hfuel) hitem (by decide) rest]
  | @cons v others t u hvalue hothers =>
      rw [List.length_append, List.length_cons] at hfuel
      have hfirst : t.length < fuel := by omega
      have hlater : u.length + 1 < fuel := by omega
      rw [List.append_assoc, List.cons_append]
      by_cases hitem : PaddedWithin maxDigits v t ∧ nesting v ≤ depth
      · -- The first item is read, so the fault is in one of the others.
        have hrest : ¬(SpelledItems maxDigits others u ∧ nestingItems others ≤ depth) :=
          fun h => hbad ⟨.cons hitem.1 h.1, Nat.max_le.mpr ⟨hitem.2, h.2⟩⟩
        obtain ⟨after, hread, hskip⟩ := (reads fuel).padded hitem.1 hfirst hitem.2
          (by decide : ',' ∈ [',', ']', '}']) (u ++ ']' :: rest)
        rw [readItems_succ fuel depth hread, hskip]
        change (readItems fuel depth (u ++ ']' :: rest)).map _ = _
        rw [hrefuses.items hothers hlater hrest]
        rfl
      · rw [readItems_value, hrefuses.delimited hvalue hfirst hitem (by decide)]

theorem Refuses.members_succ (hrefuses : Refuses fuel) {ms : List (String × Json)}
    {t : List Char} (hmembers : SpelledMembers digits ms t) (hfuel : t.length + 1 < fuel + 1)
    {depth : Nat} (hbad : ¬(SpelledMembers maxDigits ms t ∧ nestingMembers ms ≤ depth))
    (before : List (String × Json)) (rest : List Char) :
    readMembers (fuel + 1) depth before (t ++ '}' :: rest) = none := by
  cases hmembers with
  | @last name v n t hname hvalue =>
      rw [List.length_append, List.length_cons] at hfuel
      have hfirst : t.length < fuel := by omega
      have hmember : ¬(PaddedWithin maxDigits v t ∧ nesting v ≤ depth) :=
        fun h => hbad ⟨.last hname h.1, by simpa [nestingMembers] using h.2⟩
      rw [List.append_assoc, List.cons_append]
      exact readMembers_eq_none hname
        (hrefuses.delimited hvalue hfirst hmember (by decide) rest) before
  | @cons name v others n t u hname hvalue hothers hdistinct =>
      rw [List.length_append, List.length_cons, List.length_append, List.length_cons] at hfuel
      have hfirst : t.length < fuel := by omega
      have hlater : u.length + 1 < fuel := by omega
      rw [List.append_assoc, List.cons_append, List.append_assoc, List.cons_append]
      by_cases hmember : PaddedWithin maxDigits v t ∧ nesting v ≤ depth
      · have hrest : ¬(SpelledMembers maxDigits others u ∧ nestingMembers others ≤ depth) :=
          fun h => hbad ⟨.cons hname hmember.1 h.1 hdistinct, Nat.max_le.mpr ⟨hmember.2, h.2⟩⟩
        obtain ⟨after, hread, hskip⟩ := (reads fuel).padded hmember.1 hfirst hmember.2
          (by decide : ',' ∈ [',', ']', '}']) (u ++ '}' :: rest)
        rw [readMembers_succ hname fuel depth hread, hskip]
        exact hrefuses.members hothers hlater hrest _ rest
      · exact readMembers_eq_none hname
          (hrefuses.delimited hvalue hfirst hmember (by decide) _) before

end Succ

theorem refuses (fuel : Nat) : Refuses fuel := by
  -- As for what is read, each reader calls the others with the budget below its own.
  induction fuel with
  | zero =>
      exact ⟨fun _ hfuel => absurd hfuel (Nat.not_lt_zero _),
        fun _ hfuel => absurd hfuel (Nat.not_lt_zero _),
        fun _ hfuel => absurd hfuel (Nat.not_lt_zero _)⟩
  | succ fuel ih => exact ⟨ih.value_succ, ih.items_succ, ih.members_succ⟩

/-- A text of a value that is nested too deeply or has too long a number is not read. -/
theorem readWithin_eq_none {v : Json} {t : List Char} (hvalue : Padded v t) {depth : Nat}
    (hbad : ¬(PaddedWithin maxDigits v t ∧ nesting v ≤ depth)) : readWithin depth t = none := by
  obtain ⟨digits, hvalue⟩ := hvalue
  have hend {after : List Char} (hafter : Blank after) : Ends (after ++ []) := by
    rw [List.append_nil]
    exact ends_blank hafter
  have hread := (refuses (t.length + 1)).padded hvalue (Nat.lt_succ_self _) hbad hend
  rw [List.append_nil] at hread
  rw [readWithin, hread]

end Parley.Json
