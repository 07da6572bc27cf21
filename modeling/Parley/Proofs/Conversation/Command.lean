import Parley.Conversation.State

/-!
# What a submitted line is

A line is judged without the blanks at its ends.  It is a command to quit or to empty the
conversation, a question, or blank; blank lines are passed over.  A question is sent
without those blanks, so it is neither blank nor a command itself.
-/

namespace Parley.Conversation

def quits (line : String) : Bool :=
  quitCommands.contains (Text.stripText line)

def clears (line : String) : Bool :=
  decide (Text.stripText line = clearCommand)

/-- Whether a line is a question. -/
def asks (line : String) : Bool :=
  !(Text.stripText line).isEmpty && !quits line && !clears line

/-- A text that is sent as a question. -/
structure IsQuestion (text : String) : Prop where
  stripped : Text.stripText text = text
  ne_empty : text ≠ ""
  not_quit : text ∉ quitCommands
  not_clear : text ≠ clearCommand

theorem isQuestion_of_asks {line : String} (hasks : asks line = true) :
    IsQuestion (Text.stripText line) := by
  simp only [asks, quits, clears, Bool.and_eq_true, Bool.not_eq_true', List.contains_eq_mem,
    decide_eq_false_iff_not, String.isEmpty_eq_false_iff] at hasks
  obtain ⟨⟨hempty, hquit⟩, hclear⟩ := hasks
  exact ⟨Text.stripText_stripText line, hempty, hquit, hclear⟩

theorem ne_empty_of_asks {line : String} (hasks : asks line = true) : line ≠ "" := by
  intro hline
  rw [hline] at hasks
  exact absurd hasks (by decide)

theorem asks_eq_false_of_quits {line : String} (hquits : quits line = true) :
    asks line = false := by
  rw [asks, hquits, Bool.not_true, Bool.and_false, Bool.false_and]

theorem asks_eq_false_of_clears {line : String} (hclears : clears line = true) :
    asks line = false := by
  rw [asks, hclears, Bool.not_true, Bool.and_false]

theorem quits_eq_false_of_asks {line : String} (hasks : asks line = true) :
    quits line = false := by
  cases hquits : quits line with
  | true => exact absurd (hasks.symm.trans (asks_eq_false_of_quits hquits)) (by decide)
  | false => rfl

theorem clears_eq_false_of_asks {line : String} (hasks : asks line = true) :
    clears line = false := by
  cases hclears : clears line with
  | true => exact absurd (hasks.symm.trans (asks_eq_false_of_clears hclears)) (by decide)
  | false => rfl

theorem quits_eq_false_of_clears {line : String} (hclears : clears line = true) :
    quits line = false := by
  rw [quits, of_decide_eq_true hclears]
  rfl

/-- The commands are not blank. -/
theorem stripText_ne_empty {line : String} (hcommand : quits line || clears line) :
    (Text.stripText line).isEmpty = false := by
  rw [Bool.or_eq_true, quits, clears, decide_eq_true_eq, List.contains_iff_mem] at hcommand
  obtain hquit | hclear := hcommand
  · rw [quitCommands, List.mem_cons, List.mem_singleton] at hquit
    obtain hline | hline := hquit
    · rw [hline]
      rfl
    · rw [hline]
      rfl
  · rw [hclear]
    rfl

variable {c : Conversation}

theorem submit_of_streaming (hstreaming : c.streaming = true) : c.submit = (c, .none) := by
  rw [submit, if_pos hstreaming]

section Idle

variable (hidle : c.streaming = false)
include hidle

theorem submit_of_quits (hquits : quits c.input = true) : c.submit = (c, .quit) := by
  have hshown : (Text.stripText c.input).isEmpty = false :=
    stripText_ne_empty (by rw [hquits, Bool.true_or])
  rw [quits] at hquits
  rw [submit, if_neg (by simp [hidle]), if_neg (by simp [hshown]), if_pos hquits]

theorem submit_of_clears (hclears : clears c.input = true) :
    c.submit = (c.clear, .clear) := by
  have hshown : (Text.stripText c.input).isEmpty = false :=
    stripText_ne_empty (by rw [hclears, Bool.or_true])
  have hquits : quits c.input = false := quits_eq_false_of_clears hclears
  rw [quits] at hquits
  rw [submit, if_neg (by simp [hidle]), if_neg (by simp [hshown]), if_neg (Bool.eq_false_iff.mp hquits),
    if_pos (of_decide_eq_true hclears)]

theorem submit_of_asks (hasks : asks c.input = true) :
    c.submit = (c.startTurn (Text.stripText c.input), .startTurn) := by
  obtain ⟨-, hempty, hquits, hclears⟩ := isQuestion_of_asks hasks
  rw [submit, if_neg (by simp [hidle]), if_neg (by simpa using hempty),
    if_neg (by simpa using hquits), if_neg hclears]

theorem submit_of_blank (hquits : quits c.input = false) (hclears : clears c.input = false)
    (hasks : asks c.input = false) : c.submit = (c, .none) := by
  have hempty : (Text.stripText c.input).isEmpty = true := by
    simpa [asks, hquits, hclears] using hasks
  rw [submit, if_neg (by simp [hidle]), if_pos hempty]

end Idle

/-- All that a submission can do: nothing, empty the conversation, or begin a turn with
the question that the input is. -/
theorem submit_cases (c : Conversation) :
    c.submit = (c, .none) ∨ c.submit = (c, .quit) ∨
    (c.streaming = false ∧ c.submit = (c.clear, .clear)) ∨
    (c.streaming = false ∧ asks c.input = true ∧
      c.submit = (c.startTurn (Text.stripText c.input), .startTurn)) := by
  cases hstreaming : c.streaming with
  | true => exact Or.inl (submit_of_streaming hstreaming)
  | false =>
      cases hquits : quits c.input with
      | true => exact Or.inr (Or.inl (submit_of_quits hstreaming hquits))
      | false =>
          cases hclears : clears c.input with
          | true => exact Or.inr (Or.inr (Or.inl ⟨rfl, submit_of_clears hstreaming hclears⟩))
          | false =>
              cases hasks : asks c.input with
              | true =>
                  exact Or.inr (Or.inr (Or.inr ⟨rfl, rfl, submit_of_asks hstreaming hasks⟩))
              | false => exact Or.inl (submit_of_blank hstreaming hquits hclears hasks)

end Parley.Conversation
