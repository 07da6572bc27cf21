import Parley.Chat.Chunk

/-!
# Which values pass a check

A check says what it makes of a value; here it is said of every combination of checks which
values pass it, in terms of the values alone.  A member that has to be there is there, one
that may be left out is fine if it is left out, and of a list every item counts.
-/

namespace Parley

namespace Checked

variable {α β γ : Type}

/-! ## Outcomes -/

theorem both_eq_ok {f : α → β → γ} {first : Checked α} {second : Checked β} {c : γ}
    (hok : both f first second = .ok c) :
    ∃ a b, first = .ok a ∧ second = .ok b ∧ f a b = c := by
  cases first with
  | error problems =>
      cases second with
      | error others => exact absurd hok (by simp [both])
      | ok b => exact absurd hok (by simp [both])
  | ok a =>
      cases second with
      | error problems => exact absurd hok (by simp [both])
      | ok b => exact ⟨a, b, rfl, rfl, Except.ok.inj hok⟩

theorem under_eq_ok {step : PathStep} {outcome : Checked α} {a : α}
    (hok : under step outcome = .ok a) : outcome = .ok a := by
  cases outcome with
  | error problems => exact absurd hok (by simp [under])
  | ok b => exact hok

theorem eq_ok_of_toOption {checked : Checked α} {a : α}
    (h : checked.toOption = some a) : checked = .ok a := by
  cases checked with
  | error problems => exact absurd h (by simp [Except.toOption])
  | ok b => exact congrArg Except.ok (Option.some.inj h)

/-- The outcome of a check without problems. -/
def Passes (outcome : Checked α) : Prop :=
  ∃ a, outcome = .ok a

@[simp]
theorem passes_ok (a : α) : Passes (.ok a : Checked α) := ⟨a, rfl⟩

@[simp]
theorem not_passes_error (problems : List Problem) : ¬Passes (.error problems : Checked α) := by
  rintro ⟨a, hok⟩
  cases hok

@[simp]
theorem not_passes_fail (cause : Cause) : ¬Passes (fail cause : Checked α) :=
  not_passes_error _

@[simp]
theorem passes_under {step : PathStep} {outcome : Checked α} :
    Passes (under step outcome) ↔ Passes outcome := by
  cases outcome with
  | ok a => exact Iff.rfl
  | error problems => exact iff_of_false (not_passes_error _) (not_passes_error _)

theorem passes_both {f : α → β → γ} {first : Checked α} {second : Checked β} :
    Passes (both f first second) ↔ Passes first ∧ Passes second := by
  cases first with
  | ok a => cases second <;> simp [both]
  | error problems => cases second <;> simp [both]

theorem passes_map {f : α → β} {outcome : Checked α} :
    Passes (outcome.map f) ↔ Passes outcome := by
  cases outcome with
  | ok a => exact iff_of_true (passes_ok _) (passes_ok a)
  | error problems => exact iff_of_false (not_passes_error _) (not_passes_error _)

/-! ## Members -/

theorem passes_required {name : String} {check : Json → Checked α}
    {found : List (String × Json)} :
    Passes (required name check found) ↔
      ∃ value, Json.member? name found = some value ∧ Passes (check value) := by
  rw [required, passes_under]
  cases Json.member? name found <;> simp

theorem passes_optional {name : String} {default : α} {check : Json → Checked α}
    {found : List (String × Json)} :
    Passes (optional name default check found) ↔
      ∀ value, Json.member? name found = some value → Passes (check value) := by
  rw [optional, passes_under]
  cases Json.member? name found <;> simp

/-! ## Values -/

theorem passes_text {value : Json} : Passes (text value) ↔ ∃ s, value = .string s := by
  cases value <;> simp [text]

theorem passes_nullable {check : Json → Checked α} {value : Json} :
    Passes (nullable check value) ↔ value = .null ∨ Passes (check value) := by
  cases value <;> simp [nullable, passes_map]

theorem passes_object {ofMembers : List (String × Json) → Checked α} {value : Json} :
    Passes (object ofMembers value) ↔
      ∃ found, value = .object found ∧ Passes (ofMembers found) := by
  cases value <;> simp [object, members, fail]

/-- The index of an item plays no part. -/
theorem passes_itemsFrom {check : Json → Checked α} (index : Nat) (values : List Json) :
    Passes (itemsFrom check index values) ↔ ∀ value ∈ values, Passes (check value) := by
  induction values generalizing index with
  | nil => simp [itemsFrom]
  | cons value others ih => rw [itemsFrom, passes_both, passes_under, ih, List.forall_mem_cons]

theorem passes_items {check : Json → Checked α} {value : Json} :
    Passes (items check value) ↔
      ∃ values, value = .array values ∧ ∀ item ∈ values, Passes (check item) := by
  cases value <;> simp [items, passes_itemsFrom]

end Checked

end Parley
