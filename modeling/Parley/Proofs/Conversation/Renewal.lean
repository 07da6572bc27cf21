import Parley.Proofs.Conversation.Resizing
import Parley.Proofs.Conversation.Rounds

/-!
# Conversations that are emptied

Emptying a conversation resets its history, entries, input, last error and finish reason.
It leaves the reply and the mark of a turn that is going on, and need not touch them: a
conversation is emptied between two turns only, and then nothing is left of any reply.  So
an emptied conversation is a new one at the size at hand, and what comes later finds
nothing of what was there before.
-/

namespace Parley.Conversation

/-- A new conversation, set up like the one at hand and of its size. -/
def renewed (c : Conversation) : Conversation :=
  start c.model c.sessionKey c.endpoint c.width c.height

/-! ## What a conversation is set up with -/

section Setup

variable (render : Renderer) (c : Conversation)

theorem renewed_submit : c.submit.1.renewed = c.renewed := by
  obtain hnone | hquit | ⟨-, hclear⟩ | ⟨-, -, hstart⟩ := submit_cases c
  · rw [hnone]
  · rw [hquit]
  · rw [hclear]
    rfl
  · rw [hstart]
    rfl

theorem renewed_finish (error : Option Failure) (finishReason : Option String) :
    (c.finish render error finishReason).renewed = c.renewed := by
  have hkept : (if error.isNone || !c.reply.isEmpty then c.commit render else c).renewed =
      c.renewed := by
    split
    · rfl
    · rfl
  cases error with
  | none => exact hkept
  | some error => exact hkept

/-- Nothing but a resize changes what a new conversation would be. -/
theorem renewed_handle (event : Event) :
    (c.handle render event).1.renewed = c.renewed.fitted render event.size? := by
  cases event with
  | edit text =>
      rw [handle, edit]
      split
      · rfl
      · rfl
  | submit => exact renewed_submit c
  | resize width height =>
      rw [handle, resize]
      split
      · rfl
      · rfl
  | delta text =>
      rw [handle, addDelta]
      split
      · rfl
      · rfl
  | done error result =>
      rw [handle]
      split
      · exact renewed_finish render c error _
      · rfl
  | quit => rfl

theorem fitted_start (model sessionKey endpoint : String) (width height : Int)
    (size : Option (Int × Int)) :
    (start model sessionKey endpoint width height).fitted render size =
      start model sessionKey endpoint (size.getD (width, height)).1
        (size.getD (width, height)).2 := by
  cases size with
  | none => rfl
  | some size => rfl

/-- Of all sizes that a run brings the last one is left. -/
theorem fitted_lastSize (event : Event) (events : List Event) :
    (c.fitted render event.size?).fitted render (lastSize none events) =
      c.fitted render (lastSize none (event :: events)) := by
  cases event with
  | resize width height =>
      rw [lastSize_resize, lastSize, lastSize]
      cases (events.filterMap Event.size?).getLast? with
      | none => rfl
      | some size => exact redrawn_redrawn render c size.1 size.2 width height
  | edit text => rfl
  | submit => rfl
  | delta text => rfl
  | done error result => rfl
  | quit => rfl

theorem renewed_handleAll (events : List Event) :
    (c.handleAll render events).1.renewed =
      c.renewed.fitted render (lastSize none events) := by
  induction events generalizing c with
  | nil => rfl
  | cons event rest ih =>
      calc ((c.handle render event).1.handleAll render rest).1.renewed
          = (c.handle render event).1.renewed.fitted render (lastSize none rest) := ih _
        _ = (c.renewed.fitted render event.size?).fitted render (lastSize none rest) := by
            rw [renewed_handle]
        _ = c.renewed.fitted render (lastSize none (event :: rest)) :=
            fitted_lastSize render c.renewed event rest

theorem handleAll_append (first later : List Event) :
    c.handleAll render (first ++ later) =
      (((c.handleAll render first).1.handleAll render later).1,
        (c.handleAll render first).2 ++
          ((c.handleAll render first).1.handleAll render later).2) := by
  induction first generalizing c with
  | nil => rfl
  | cons event rest ih =>
      simp only [List.cons_append, handleAll]
      rw [ih]

end Setup

theorem Settled.clear_eq {c : Conversation} (h : c.Settled) : c.clear = c.renewed := by
  have hidle := h.idle
  have hreply := h.reply
  rcases c with ⟨⟩
  subst hidle hreply
  rfl

/-- A submission empties a conversation between two turns only. -/
theorem submit_of_action_clear {c : Conversation} (haction : c.submit.2 = .clear) :
    c.streaming = false ∧ c.submit.1 = c.clear := by
  obtain hnone | hquit | ⟨hidle, hclear⟩ | ⟨-, -, hstart⟩ := submit_cases c
  · rw [hnone] at haction
    exact Action.noConfusion haction
  · rw [hquit] at haction
    exact Action.noConfusion haction
  · rw [hclear]
    exact ⟨hidle, rfl⟩
  · rw [hstart] at haction
    exact Action.noConfusion haction

/-- A conversation that has just been emptied is a new one of the size at hand, which is
the last one that was brought.  So all events that come later have the actions and leave
the state that they have and leave in a new conversation. -/
theorem handleAll_start_clear {render : Renderer} {model sessionKey endpoint : String}
    {width height : Int} {events : List Event}
    (hclear : ((start model sessionKey endpoint width height).handleAll render
      (events ++ [.submit])).2.getLast? = some .clear) :
    let fresh := start model sessionKey endpoint width height
    let cleared := fresh.handleAll render (events ++ [.submit])
    let renewed := start model sessionKey endpoint cleared.1.width cleared.1.height
    (cleared.1.width, cleared.1.height) =
        (events.filterMap Event.size?).getLast?.getD (width, height) ∧
      cleared.1 = renewed ∧
      ∀ later, fresh.handleAll render (events ++ .submit :: later) =
        ((renewed.handleAll render later).1,
          cleared.2 ++ (renewed.handleAll render later).2) := by
  intro fresh cleared renewed
  let before := (fresh.handleAll render events).1
  have hcleared : cleared = (before.submit.1,
      (fresh.handleAll render events).2 ++ [before.submit.2]) :=
    handleAll_append render fresh events [.submit]
  have haction : before.submit.2 = .clear := by
    have hlast : cleared.2.getLast? = some .clear := hclear
    rw [hcleared, List.getLast?_concat] at hlast
    exact Option.some.inj hlast
  obtain ⟨hidle, hempty⟩ := submit_of_action_clear haction
  have hsettled : before.Settled := by
    have hsound : before.Sound :=
      Sound.handleAll (Or.inl (settled_start model sessionKey endpoint width height)) render
        events
    exact hsound.resolve_right fun hasking => absurd hasking.streaming (by simp [hidle])
  let size := (events.filterMap Event.size?).getLast?.getD (width, height)
  have hstart : cleared.1 = start model sessionKey endpoint size.1 size.2 := by
    rw [hcleared]
    calc before.submit.1
        = before.renewed := hempty.trans hsettled.clear_eq
      _ = fresh.fitted render (lastSize none events) := renewed_handleAll render fresh events
      _ = start model sessionKey endpoint size.1 size.2 := by
          rw [fitted_start, lastSize, Option.or_none]
  have hsize : (cleared.1.width, cleared.1.height) = size := by
    rw [hstart]
    rfl
  have hrenewed : cleared.1 = renewed := by
    have hwidth : cleared.1.width = size.1 := congrArg Prod.fst hsize
    have hheight : cleared.1.height = size.2 := congrArg Prod.snd hsize
    rw [hstart, ← hwidth, ← hheight]
  refine ⟨hsize, hrenewed, ?_⟩
  intro later
  have happend : events ++ .submit :: later = events ++ [.submit] ++ later := by
    rw [List.append_assoc, List.singleton_append]
  rw [happend, handleAll_append, ← hrenewed]

/-- A turn that fails after a part of its reply, and a resize, before the conversation is
emptied. -/
def emptiedRun : List Event :=
  [.edit "hi", .submit, .delta "par", .done (some (.deadline "late")) none, .resize 40 10,
    .edit " /clear "]

theorem handleAll_start_clear_emptiedRun :
    let fresh := start "m" "k" "e" 80 24
    let cleared := fresh.handleAll (fun text _ => text) (emptiedRun ++ [.submit])
    cleared.2.getLast? = some .clear ∧ cleared.1 = start "m" "k" "e" 40 10 := by
  intro fresh cleared
  have hclear : cleared.2.getLast? = some .clear := by decide +kernel
  obtain ⟨hsize, hrenewed, -⟩ := handleAll_start_clear hclear
  refine ⟨hclear, hrenewed.trans ?_⟩
  obtain ⟨hwidth, hheight⟩ := Prod.mk.inj hsize
  rw [hwidth, hheight]

end Parley.Conversation
