import Parley.Terminal.Line

/-!
# Lines as texts

What the operations on lines do to the characters, whatever the runs are.
-/

namespace Parley.Terminal.Line

@[simp] theorem chars_nil : chars [] = [] := rfl

@[simp] theorem chars_cons (run : Run) (line : Line) :
    chars (run :: line) = run.text ++ chars line :=
  List.flatMap_cons

@[simp] theorem chars_append (first second : Line) :
    chars (first ++ second) = chars first ++ chars second :=
  List.flatMap_append

@[simp] theorem chars_ofChars (text : List Char) (style : Style) :
    chars (ofChars text style) = text := by
  cases text with
  | nil => rfl
  | cons c rest => exact List.append_nil _

@[simp] theorem chars_spaces (n : Nat) (style : Style) :
    chars (spaces n style) = List.replicate n ' ' :=
  chars_ofChars _ style

/-- Other characters take the place of all that were there. -/
theorem chars_repaint (text : List Char) (line : Line) : chars (repaint text line) = text := by
  induction line generalizing text with
  | nil => exact chars_ofChars text .none
  | cons run rest ih =>
      rw [repaint]
      split
      case isTrue hempty => exact (List.isEmpty_iff.mp hempty).symm
      case isFalse => rw [chars_append, chars_ofChars, ih, List.take_append_drop]

end Parley.Terminal.Line
