import Parley.Screen.Prompt

/-!
# What the prompt tells

However the text of the prompt comes about, by typing, by recalling a message or by an
assignment, the prompt tells of the text exactly when it has become another one.  None of
its operations locks or unlocks it.
-/

namespace Parley.Screen.Prompt

/-- What an operation makes of a prompt, and what it tells: its text if that is another
one. -/
structure Tells (p : Prompt) (told : Prompt × List Notice) : Prop where
  locked : told.1.locked = p.locked
  notices : told.2 = if told.1.value = p.value then [] else [.changed told.1.value]

variable {p : Prompt}

theorem tells_assign (p : Prompt) (text : String) : p.Tells (p.assign text) := by
  rw [assign]
  split
  case isTrue => exact ⟨rfl, (if_pos rfl).symm⟩
  case isFalse hother => exact ⟨rfl, (if_neg hother).symm⟩

theorem value_assign (p : Prompt) (text : String) : (p.assign text).1.value = text := by
  rw [assign]
  split
  case isTrue hsame => exact hsame.symm
  case isFalse => rfl

theorem tells_display (p : Prompt) (text : String) : p.Tells (p.display text) :=
  ⟨(tells_assign p text).locked, (tells_assign p text).notices⟩

theorem tells_replace (p : Prompt) (start stop : Nat) (text : List Char) :
    p.Tells (p.replace start stop text) :=
  ⟨(tells_assign p _).locked, (tells_assign p _).notices⟩

theorem tells_nothing (p : Prompt) : p.Tells (p, []) :=
  ⟨rfl, (if_pos rfl).symm⟩

theorem tells_paste (p : Prompt) (text : String) : p.Tells (p.paste text) := by
  rw [paste]
  split
  · exact tells_nothing p
  · exact tells_replace p _ _ _

/-! ## Recalling -/

theorem tells_recallAt (p : Prompt) (place : Nat) : p.Tells (p.recallAt place) :=
  ⟨(tells_display _ _).locked, (tells_display _ _).notices⟩

theorem tells_older (p : Prompt) : p.Tells p.older := by
  rw [older]
  split
  · exact ⟨(tells_recallAt _ _).locked, (tells_recallAt _ _).notices⟩
  · exact tells_recallAt p _

theorem tells_newer (p : Prompt) : p.Tells p.newer := by
  rw [newer]
  split
  · exact tells_nothing p
  · split
    · exact tells_recallAt p _
    · exact ⟨(tells_display _ _).locked, (tells_display _ _).notices⟩

theorem tells_up (p : Prompt) : p.Tells p.up := by
  rw [up]
  split
  · exact tells_older p
  · exact tells_nothing p

theorem tells_down (p : Prompt) : p.Tells p.down := by
  rw [down]
  split
  · exact tells_newer p
  · exact tells_nothing p

end Parley.Screen.Prompt
