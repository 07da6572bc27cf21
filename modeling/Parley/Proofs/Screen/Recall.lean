import Mathlib.Data.List.Chain
import Parley.Proofs.Screen.Telling

/-!
# Walking through sent messages

Up and Down move a prompt along its sent messages, behind which stands the text that was
being typed.  The place where it stands is not part of the prompt: there is the position in
the list while a message is shown, and a draft that was put aside.  On every walk these two
and the text that is shown agree with one place, which stops at either end of the list.
-/

namespace Parley.Screen

/-- A key that walks through the sent messages. -/
inductive Arrow
  | up
  | down
  deriving Repr, DecidableEq

namespace Arrow

/-- The place to which a key leads from another place. -/
def move (last place : Nat) : Arrow → Nat
  | up => place - 1
  | down => min (place + 1) last

/-- The place to which a walk leads from the last place. -/
def reached (last : Nat) (arrows : List Arrow) : Nat :=
  arrows.foldl (move last) last

theorem foldl_move_up (last place k : Nat) :
    (List.replicate k up).foldl (move last) place = place - k := by
  induction k generalizing place with
  | zero => rfl
  | succ k ih =>
      rw [List.replicate_succ, List.foldl_cons, ih, move]
      omega

theorem foldl_move_down {last place : Nat} (hplace : place ≤ last) (k : Nat) :
    (List.replicate k down).foldl (move last) place = min (place + k) last := by
  induction k generalizing place with
  | zero => exact (Nat.min_eq_left hplace).symm
  | succ k ih =>
      rw [List.replicate_succ, List.foldl_cons, move, ih (Nat.min_le_right _ _)]
      omega

/-- As many steps down as there were steps up lead back. -/
theorem reached_up_down (last k : Nat) :
    reached last (List.replicate k up ++ List.replicate k down) = last := by
  rw [reached, List.foldl_append, foldl_move_up, foldl_move_down (Nat.sub_le last k)]
  omega

end Arrow

namespace Prompt

def follow (p : Prompt) : Arrow → Prompt
  | .up => p.up.1
  | .down => p.down.1

def walk (p : Prompt) (arrows : List Arrow) : Prompt :=
  arrows.foldl follow p

/-! ## What is shown -/

theorem display_fst (p : Prompt) (text : String) :
    (p.display text).1 = { p with value := text, cursor := text.length } := by
  rw [display, assign]
  by_cases hsame : text = p.value
  · rw [if_pos hsame, hsame]
  · rw [if_neg hsame]

theorem recallAt_fst (p : Prompt) (place : Nat) :
    (p.recallAt place).1 =
      { p with
        position := some place
        value := p.sent.getD place ""
        cursor := (p.sent.getD place "").length } :=
  display_fst _ _

theorem recalls_iff (p : Prompt) : p.recalls = true ↔ p.locked = false ∧ p.sent ≠ [] := by
  simp [recalls]

/-! ## One place -/

/-- A prompt that stands at a place of its sent messages, with the draft behind them. -/
structure StandsAt (messages : List String) (typed : String) (place : Nat) (p : Prompt) :
    Prop where
  recalls : p.recalls = true
  sent : p.sent = messages
  value : (messages ++ [typed])[place]? = some p.value
  position : p.position = if place < messages.length then some place else none
  draft : place < messages.length → p.draft = typed

variable {p : Prompt} {messages : List String} {typed : String} {place : Nat}

/-- A prompt that shows no sent message stands behind them. -/
theorem standsAt_of_typing (hrecalls : p.recalls = true) (hposition : p.position = none) :
    p.StandsAt p.sent p.value p.sent.length where
  recalls := hrecalls
  sent := rfl
  value := List.getElem?_concat_length
  position := by rw [hposition, if_neg (Nat.lt_irrefl _)]
  draft hlt := absurd hlt (Nat.lt_irrefl _)

theorem StandsAt.le_length (h : p.StandsAt messages typed place) : place ≤ messages.length := by
  have hlt := (List.getElem?_eq_some_iff.mp h.value).1
  rw [List.length_append, List.length_singleton] at hlt
  exact Nat.le_of_lt_succ hlt

/-- Behind the sent messages, the prompt shows the draft. -/
theorem StandsAt.value_last (h : p.StandsAt messages typed messages.length) : p.value = typed := by
  apply Option.some.inj
  calc some p.value
      = (messages ++ [typed])[messages.length]? := h.value.symm
    _ = some typed := List.getElem?_concat_length

theorem standsAt_recallAt (hrecalls : p.recalls = true) (hsent : p.sent = messages)
    (hdraft : p.draft = typed) (hplace : place < messages.length) :
    (p.recallAt place).1.StandsAt messages typed place := by
  rw [recallAt_fst]
  refine ⟨hrecalls, hsent, ?_, (if_pos hplace).symm, fun _ => hdraft⟩
  have hentry : p.sent.getD place "" = messages[place] := by
    rw [hsent, List.getD_eq_getElem?_getD, List.getElem?_eq_getElem hplace, Option.getD_some]
  rw [List.getElem?_append_left hplace, List.getElem?_eq_getElem hplace, hentry]

/-- The first step up puts the text that is shown aside; every other one goes one place
further, as far as there are places. -/
theorem StandsAt.up (h : p.StandsAt messages typed place) :
    p.up.1.StandsAt messages typed (place - 1) := by
  have hpositive : 0 < messages.length := by
    apply List.length_pos_of_ne_nil
    rw [← h.sent]
    exact ((recalls_iff p).mp h.recalls).2
  have hposition := h.position
  rw [Prompt.up, if_pos h.recalls, older]
  split
  case h_1 hnone =>
      rw [hnone] at hposition
      have hend : ¬place < messages.length := by
        intro hlt
        rw [if_pos hlt] at hposition
        cases hposition
      obtain rfl : place = messages.length := Nat.le_antisymm h.le_length (Nat.not_lt.mp hend)
      rw [congrArg List.length h.sent]
      have hlast : messages.length - 1 < messages.length := Nat.sub_lt hpositive Nat.one_pos
      exact standsAt_recallAt (p := { p with draft := p.value }) h.recalls h.sent h.value_last
        hlast
  case h_2 other hother =>
      rw [hother] at hposition
      split at hposition
      case isTrue hlt =>
          obtain rfl := Option.some.inj hposition
          exact standsAt_recallAt h.recalls h.sent (h.draft hlt) ((Nat.sub_le _ 1).trans_lt hlt)
      case isFalse => cases hposition

/-- The step down from the last sent message brings the draft back. -/
theorem StandsAt.down (h : p.StandsAt messages typed place) :
    p.down.1.StandsAt messages typed (min (place + 1) messages.length) := by
  have hposition := h.position
  rw [Prompt.down, if_pos h.recalls, newer]
  split
  case h_1 hnone =>
      have hend : min (place + 1) messages.length = place := by
        rw [hnone] at hposition
        have hle := h.le_length
        split at hposition
        case isTrue => cases hposition
        case isFalse hend => omega
      rw [hend]
      exact h
  case h_2 other hother =>
      rw [hother] at hposition
      split at hposition
      case isFalse => cases hposition
      case isTrue hlt =>
          obtain rfl := Option.some.inj hposition
          have hnext : min (other + 1) messages.length = other + 1 := Nat.min_eq_left hlt
          rw [congrArg List.length h.sent, hnext]
          split
          case isTrue hmore => exact standsAt_recallAt h.recalls h.sent (h.draft hlt) hmore
          case isFalse hlast =>
              have hbehind : other + 1 = messages.length := by omega
              have htyping : Prompt.recalls { p with position := none } = true := h.recalls
              rw [display_fst, hbehind, h.draft hlt]
              exact ⟨htyping, h.sent, List.getElem?_concat_length, by simp, by simp⟩

theorem StandsAt.follow (h : p.StandsAt messages typed place) (arrow : Arrow) :
    (p.follow arrow).StandsAt messages typed (arrow.move messages.length place) := by
  cases arrow with
  | up => exact h.up
  | down => exact h.down

theorem StandsAt.walk (h : p.StandsAt messages typed place) (arrows : List Arrow) :
    (p.walk arrows).StandsAt messages typed (arrows.foldl (Arrow.move messages.length) place) := by
  induction arrows generalizing p place with
  | nil => exact h
  | cons arrow rest ih => exact ih (h.follow arrow)

/-! ## Everything that may happen to a prompt -/

/-- What may happen to a prompt: a text is typed, put in place of another or taken away,
a sent message is recalled, the prompt is locked or unlocked, and a message is sent. -/
inductive Handling
  | assign (text : String)
  | display (text : String)
  | replace (start stop : Nat) (text : List Char)
  | paste (text : String)
  | left
  | toEnd
  | follow (arrow : Arrow)
  | lock (locked : Bool)
  | remember (message : String)
  deriving Repr, DecidableEq

def handle (p : Prompt) : Handling → Prompt
  | .assign text => (p.assign text).1
  | .display text => (p.display text).1
  | .replace start stop text => (p.replace start stop text).1
  | .paste text => (p.paste text).1
  | .left => p.left
  | .toEnd => p.toEnd
  | .follow arrow => p.follow arrow
  | .lock locked => { p with locked }
  | .remember message => p.remember message

/-- The prompt after everything that happened to it, from its beginning. -/
def handled (handlings : List Handling) : Prompt :=
  handlings.foldl handle {}

/-- What makes a prompt fit for a walk: its position is one of its sent messages, none of
which is empty or the same as the one before it. -/
structure Sound (p : Prompt) : Prop where
  position : ∀ place, p.position = some place → place < p.sent.length
  nonempty : "" ∉ p.sent
  distinct : p.sent.IsChain (· ≠ ·)

/-- If no sent message is shown, there is no position to look at. -/
theorem lt_of_none (last : Nat) : ∀ place, (none : Option Nat) = some place → place < last := by
  intro place hnone
  cases hnone

theorem Sound.of_same {q : Prompt} (h : p.Sound) (hsent : q.sent = p.sent)
    (hposition : q.position = p.position) : q.Sound := by
  refine ⟨?_, ?_, ?_⟩
  · rw [hsent, hposition]
    exact h.position
  · rw [hsent]
    exact h.nonempty
  · rw [hsent]
    exact h.distinct

/-- A text that is shown has nothing to do with the messages that were sent. -/
theorem Sound.assign (h : p.Sound) (text : String) : (p.assign text).1.Sound := by
  rw [Prompt.assign]
  split
  · exact h
  · exact h.of_same rfl rfl

theorem Sound.replace (h : p.Sound) (start stop : Nat) (text : List Char) :
    (p.replace start stop text).1.Sound :=
  (h.assign _).of_same rfl rfl

theorem Sound.display (h : p.Sound) (text : String) : (p.display text).1.Sound :=
  (h.assign _).of_same rfl rfl

theorem Sound.paste (h : p.Sound) (text : String) : (p.paste text).1.Sound := by
  rw [Prompt.paste]
  split
  · exact h
  · exact h.replace _ _ _

theorem Sound.recallAt (h : p.Sound) (hplace : place < p.sent.length) :
    (p.recallAt place).1.Sound := by
  rw [recallAt_fst]
  refine ⟨?_, h.nonempty, h.distinct⟩
  intro other hother
  rw [← Option.some.inj hother]
  exact hplace

theorem Sound.up (h : p.Sound) : p.up.1.Sound := by
  rw [Prompt.up]
  split
  case isFalse => exact h
  case isTrue hrecalls =>
      have hpositive := List.length_pos_of_ne_nil ((recalls_iff p).mp hrecalls).2
      rw [older]
      split
      case h_1 =>
          have hasked : Sound { p with draft := p.value } := h.of_same rfl rfl
          exact hasked.recallAt (Nat.sub_lt hpositive Nat.one_pos)
      case h_2 place hposition =>
          exact h.recallAt ((Nat.sub_le place 1).trans_lt (h.position place hposition))

theorem Sound.down (h : p.Sound) : p.down.1.Sound := by
  rw [Prompt.down]
  split
  case isFalse => exact h
  case isTrue =>
      rw [newer]
      split
      case h_1 => exact h
      case h_2 =>
          split
          case isTrue hnext => exact h.recallAt hnext
          case isFalse =>
              have hleft : Sound { p with position := none } :=
                ⟨lt_of_none _, h.nonempty, h.distinct⟩
              exact hleft.display _

theorem Sound.remember (h : p.Sound) (message : String) : (p.remember message).Sound := by
  refine ⟨lt_of_none _, ?_, ?_⟩
  · rw [Prompt.remember]
    dsimp only
    split
    case isTrue => exact h.nonempty
    case isFalse hnew =>
        intro hmem
        obtain hearlier | hlast := List.mem_append.mp hmem
        · exact h.nonempty hearlier
        · rw [List.mem_singleton] at hlast
          exact hnew (by rw [← hlast]; rfl)
  · rw [Prompt.remember]
    dsimp only
    split
    case isTrue => exact h.distinct
    case isFalse hnew =>
        refine List.isChain_append.mpr ⟨h.distinct, .singleton message, ?_⟩
        rintro last hlast next hnext rfl
        rw [Option.mem_def, List.head?_cons, Option.some.injEq] at hnext
        apply hnew
        rw [hnext, Option.mem_def.mp hlast, Bool.or_eq_true, decide_eq_true_eq]
        exact Or.inr rfl

theorem Sound.handle (h : p.Sound) (handling : Handling) : (p.handle handling).Sound := by
  cases handling with
  | assign text => exact h.assign text
  | display text => exact h.display text
  | replace start stop text => exact h.replace start stop text
  | paste text => exact h.paste text
  | left => exact h.of_same rfl rfl
  | toEnd => exact h.of_same rfl rfl
  | follow arrow =>
      cases arrow with
      | up => exact h.up
      | down => exact h.down
  | lock locked => exact h.of_same rfl rfl
  | remember message => exact h.remember message

theorem Sound.foldl_handle (h : p.Sound) (handlings : List Handling) :
    (handlings.foldl Prompt.handle p).Sound := by
  induction handlings generalizing p with
  | nil => exact h
  | cons handling rest ih => exact ih (h.handle handling)

theorem sound_handled (handlings : List Handling) : (handled handlings).Sound := by
  have hstart : Sound ({} : Prompt) := ⟨lt_of_none _, List.not_mem_nil, .nil⟩
  exact hstart.foldl_handle handlings

/-- Whatever happened to a prompt, it is fit for a walk.  If it is unlocked, something was
sent and no sent message is shown, then a walk shows the entry at the place it reaches among
the sent messages and the text before the walk; and as many steps down as there were steps
up bring this text back. -/
theorem walk_handled (handlings : List Handling) :
    let p := handled handlings
    (∀ place, p.position = some place → place < p.sent.length) ∧
    "" ∉ p.sent ∧ p.sent.IsChain (· ≠ ·) ∧
    (p.locked = false → p.position = none → p.sent ≠ [] →
      (∀ arrows, (p.sent ++ [p.value])[Arrow.reached p.sent.length arrows]? =
        some (p.walk arrows).value) ∧
      ∀ k, (p.walk (.replicate k .up ++ .replicate k .down)).value = p.value) := by
  intro p
  obtain ⟨hposition, hnonempty, hdistinct⟩ := sound_handled handlings
  refine ⟨hposition, hnonempty, hdistinct, ?_⟩
  intro hunlocked htyping hsent
  have hrecalls := (recalls_iff p).mpr ⟨hunlocked, hsent⟩
  have hwalk (arrows : List Arrow) :
      (p.walk arrows).StandsAt p.sent p.value (Arrow.reached p.sent.length arrows) :=
    (standsAt_of_typing hrecalls htyping).walk arrows
  refine ⟨fun arrows => (hwalk arrows).value, ?_⟩
  intro k
  have hback := hwalk (.replicate k .up ++ .replicate k .down)
  rw [Arrow.reached_up_down] at hback
  exact hback.value_last

/-- A message is sent twice, another one once, the first is recalled and sent again, and a
draft is typed while the prompt is locked. -/
def resent : List Handling :=
  [.display "one", .remember "one", .assign "", .remember "one", .remember "two", .follow .up,
    .follow .up, .remember "one", .assign "", .lock true, .display "draft", .follow .up,
    .lock false]

theorem walk_handled_resent :
    let p := handled resent
    p.locked = false ∧ p.position = none ∧ p.sent = ["one", "two", "one"] ∧ p.value = "draft" ∧
    (p.walk [.down, .up, .up, .up, .up, .down]).value = "two" ∧
    (p.walk (.replicate 5 .up ++ .replicate 5 .down)).value = "draft" := by
  intro p
  have hsent : p.sent = ["one", "two", "one"] := by decide
  have hvalue : p.value = "draft" := by decide
  obtain ⟨-, -, -, hwalks⟩ := walk_handled resent
  obtain ⟨hwalk, hback⟩ := hwalks (by decide) (by decide) (by decide)
  refine ⟨by decide, by decide, hsent, hvalue, ?_, ?_⟩
  · apply Option.some.inj
    rw [← hwalk, hsent, hvalue]
    decide
  · rw [hback 5, hvalue]

end Prompt

end Parley.Screen
