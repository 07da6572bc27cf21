import Mathlib.Logic.Relation
import Parley.Proofs.Screen.Recall
import Parley.Proofs.Screen.Typing

/-!
# Recalling after the prompt was emptied

A prompt that was emptied should recall as if nothing had been recalled before: Up shows the
message that was sent last, whatever was typed, and Down brings back what was typed.  It does
exactly if no sent message is being shown.  A turn that begins sees to that, and until its reply
has come the prompt is locked; but a conversation that is emptied leaves the prompt where it
stands.
-/

namespace Parley.Screen

open Relation (ReflTransGen)

/-! ## What a prompt keeps -/

/-- What a prompt keeps beside its text: the messages that were sent, which of them is shown,
and what was being typed before. -/
structure Memory where
  sent : List String
  position : Option Nat
  draft : String

namespace Prompt

def memory (p : Prompt) : Memory :=
  ⟨p.sent, p.position, p.draft⟩

theorem memory_assign (p : Prompt) (text : String) : (p.assign text).1.memory = p.memory := by
  rw [assign]
  split
  · rfl
  · rfl

theorem memory_display (p : Prompt) (text : String) : (p.display text).1.memory = p.memory :=
  memory_assign p text

theorem memory_replace (p : Prompt) (start stop : Nat) (text : List Char) :
    (p.replace start stop text).1.memory = p.memory :=
  memory_assign p (String.ofList (p.value.toList.take start ++ text ++ p.value.toList.drop stop))

theorem memory_paste (p : Prompt) (text : String) : (p.paste text).1.memory = p.memory := by
  rw [paste]
  split
  · rfl
  · exact memory_replace p _ _ _

theorem up_of_locked {p : Prompt} (hlocked : p.locked = true) : p.up = (p, []) := by
  rw [up, recalls, hlocked]
  rfl

theorem down_of_locked {p : Prompt} (hlocked : p.locked = true) : p.down = (p, []) := by
  rw [down, recalls, hlocked]
  rfl

/-- While a sent message is shown, what Up and then Down show has nothing to do with the text of
the prompt. -/
theorem value_up_down_of_shown {p q : Prompt} (hp : p.recalls = true) (hq : q.recalls = true)
    (hmemory : q.memory = p.memory) {place : Nat} (hposition : p.position = some place) :
    q.up.1.down.1.value = p.up.1.down.1.value := by
  have hshown (r : Prompt) (hr : r.recalls = true) (hr' : r.position = some place) :
      r.up.1.down.1.value =
        if place - 1 + 1 < r.sent.length then r.sent.getD (place - 1 + 1) "" else r.draft := by
    have hup : r.up.1 =
        { r with
          position := some (place - 1)
          value := r.sent.getD (place - 1) ""
          cursor := (r.sent.getD (place - 1) "").length } := by
      rw [up, if_pos hr, older, hr']
      exact recallAt_fst r (place - 1)
    have hagain : r.up.1.recalls = true := by
      rw [hup]
      exact hr
    rw [down, if_pos hagain, hup, newer]
    dsimp only
    split
    case isTrue => rw [recallAt_fst]
    case isFalse => rw [display_fst]
  obtain ⟨hsent, hplace, hdraft⟩ := Memory.mk.inj hmemory
  rw [hshown p hp hposition, hshown q hq (hplace.trans hposition), hsent, hdraft]

end Prompt

variable {render : Renderer} {s t : Screen}

theorem position_beginTurn (s : Screen) : s.beginTurn.prompt.position = none := by
  let message := (s.conversation.history.getLast?.map Message.content).getD ""
  have hkept : s.beginTurn.prompt = ((s.prompt.remember message).assign "").1 := by
    rw [beginTurn, cancelWorker]
    split
    · rfl
    · rfl
  have hmemory := Prompt.memory_assign (s.prompt.remember message) ""
  rw [← hkept] at hmemory
  exact congrArg Memory.position hmemory

/-- Of all events, only one that begins a turn makes a difference to what the prompt keeps. -/
theorem memory_feed {event : Event} {next : Conversation} {action : Action}
    (hhandle : s.conversation.handle render event = (next, action)) :
    if action = .startTurn then (s.feed render event).prompt.position = none
    else (s.feed render event).prompt.memory = s.prompt.memory := by
  by_cases hquit : action = .quit
  · subst hquit
    rw [feed_of_quit hhandle]
    exact rfl
  · cases hsize : event.size? with
    | some size =>
        cases event with
        | resize width height =>
            obtain ⟨rfl, rfl⟩ := Prod.mk.inj hhandle
            exact rfl
        | _ => exact absurd hsize (by simp [Event.size?])
    | none =>
        rw [feed_eq hsize hhandle hquit]
        cases action with
        | startTurn => exact position_beginTurn { s with conversation := next }
        | clear => exact Prompt.memory_assign s.prompt ""
        | quit => exact absurd rfl hquit
        | none => exact rfl
        | render => exact rfl

/-- An edit of the conversation sees to the lock of the prompt and to nothing else of it. -/
theorem prompt_feed_edit (render : Renderer) (s : Screen) (text : String) :
    (s.feed render (.edit text)).prompt = { s.prompt with locked := s.conversation.streaming } := by
  have hstreaming := (Conversation.sameTurn_edit s.conversation text).streaming
  have hshown : (s.feed render (.edit text)).prompt =
      { s.prompt with locked := (s.conversation.edit text).streaming } := by
    rw [feed_eq rfl (Conversation.handle_edit render s.conversation text) (by split <;> decide)]
    split
    · rfl
    · rfl
  rw [hshown, hstreaming]

theorem streaming_feed_edit (render : Renderer) (s : Screen) (text : String) :
    (s.feed render (.edit text)).conversation.streaming = s.conversation.streaming := by
  have hcore := core_feed (s := s) (Conversation.handle_edit render s.conversation text)
    (by split <;> decide)
  have hconversation := congrArg Core.conversation hcore
  change (s.feed render (.edit text)).conversation = s.conversation.edit text at hconversation
  rw [hconversation]
  exact (Conversation.sameTurn_edit s.conversation text).streaming

/-! ## Typing -/

/-- Whether an input changes the text of the prompt and the place of the cursor, and nothing
else. -/
def Input.types : Input → Bool
  | .press (.char _) | .press .left | .press .toEnd | .press .backspace | .press .delete => true
  | .paste _ | .typeText _ => true
  | _ => false

/-- The screen handles that the text of the prompt has changed. -/
inductive Told (render : Renderer) (s : Screen) : Screen → Prop
  | changed {text : String} {rest : List Notice} (hnotices : s.notices = .changed text :: rest) :
      Told render s (s.handleNotice render)

/-- A step of typing, at which earlier steps may not have been handled yet. -/
inductive Types (render : Renderer) (s : Screen) : Screen → Prop
  | key (given : Input) (htypes : given.types = true) : Types render s (given.apply render s)
  | told {t : Screen} (htold : Told render s t) : Types render s t

/-- Whatever is typed, Up shows the message that was sent last, and Down after it what was
typed. -/
def RecallsLast (render : Renderer) (s : Screen) : Prop :=
  ∀ typed, ReflTransGen (Types render) s typed →
    let recalled := typed.press render .up
    s.prompt.sent.getLast? = some recalled.prompt.value ∧
      ∀ handled, ReflTransGen (Told render) recalled handled →
        (handled.press render .down).prompt.value = typed.prompt.value

/-- A screen that waits for input and can recall a message. -/
structure Recalling (s : Screen) : Prop where
  idle : s.conversation.streaming = false
  recalls : s.prompt.recalls = true

/-- As long as no reply is streamed, text that was typed is not taken back. -/
theorem prompt_handleNotice_changed (h : s.Recalling) {text : String} {rest : List Notice}
    (hnotices : s.notices = .changed text :: rest) :
    (s.handleNotice render).prompt = s.prompt ∧
      (s.handleNotice render).conversation.streaming = false := by
  let waiting : Screen := { s with notices := rest }
  have hidle : waiting.conversation.streaming = false := h.idle
  have hunlocked : s.prompt.locked = false := ((Prompt.recalls_iff _).mp h.recalls).1
  have hhandled : s.handleNotice render = waiting.feed render (.edit text) := by
    rw [handleNotice, hnotices]
    dsimp only
    rw [handle, dispatch_edit, hidle]
    rfl
  rw [hhandled, prompt_feed_edit, streaming_feed_edit, hidle]
  refine ⟨?_, rfl⟩
  change { s.prompt with locked := false } = s.prompt
  rw [← hunlocked]

theorem Recalling.told (h : s.Recalling) (htold : Told render s t) :
    t.Recalling ∧ t.prompt = s.prompt := by
  cases htold with
  | changed hnotices =>
      obtain ⟨hprompt, hidle⟩ := prompt_handleNotice_changed h hnotices
      exact ⟨⟨hidle, by rw [hprompt]; exact h.recalls⟩, hprompt⟩

theorem Recalling.foldl_told (h : s.Recalling) (htold : ReflTransGen (Told render) s t) :
    t.Recalling ∧ t.prompt = s.prompt := by
  induction htold with
  | refl => exact ⟨h, rfl⟩
  | tail _ hlast ih =>
      obtain ⟨hlater, hprompt⟩ := ih.1.told hlast
      exact ⟨hlater, hprompt.trans ih.2⟩

/-- What the prompt keeps and its lock decide whether it recalls. -/
theorem Prompt.recalls_of_memory {p q : Prompt} (hp : p.recalls = true)
    (hlocked : q.locked = p.locked) (hmemory : q.memory = p.memory) : q.recalls = true := by
  have hsent : q.sent = p.sent := congrArg Memory.sent hmemory
  rw [recalls, hlocked, hsent]
  exact hp

theorem Recalling.typed (h : s.Recalling) {told : Prompt × List Notice}
    (htold : s.prompt.Tells told) (hmemory : told.1.memory = s.prompt.memory) :
    (s.withPrompt told).Recalling ∧ (s.withPrompt told).prompt.memory = s.prompt.memory :=
  ⟨⟨h.idle, Prompt.recalls_of_memory h.recalls htold.locked hmemory⟩, hmemory⟩

theorem Recalling.types (h : s.Recalling) (htypes : Types render s t) :
    t.Recalling ∧ t.prompt.memory = s.prompt.memory := by
  cases htypes with
  | told htold =>
      obtain ⟨hlater, hprompt⟩ := h.told htold
      exact ⟨hlater, congrArg Prompt.memory hprompt⟩
  | key given hkey =>
      cases given with
      | paste text => exact h.typed (Prompt.tells_paste _ _) (Prompt.memory_paste _ _)
      | typeText text => exact h.typed (Prompt.tells_display _ _) (Prompt.memory_display _ _)
      | press key =>
          cases key with
          | char c => exact h.typed (Prompt.tells_replace _ _ _ _) (Prompt.memory_replace _ _ _ _)
          | backspace =>
              exact h.typed (Prompt.tells_replace _ _ _ _) (Prompt.memory_replace _ _ _ _)
          | delete => exact h.typed (Prompt.tells_replace _ _ _ _) (Prompt.memory_replace _ _ _ _)
          | left => exact ⟨⟨h.idle, h.recalls⟩, rfl⟩
          | toEnd => exact ⟨⟨h.idle, h.recalls⟩, rfl⟩
          | _ => exact absurd hkey Bool.false_ne_true
      | _ => exact absurd hkey Bool.false_ne_true

theorem Recalling.foldl_types (h : s.Recalling) (htypes : ReflTransGen (Types render) s t) :
    t.Recalling ∧ t.prompt.memory = s.prompt.memory := by
  induction htypes with
  | refl => exact ⟨h, rfl⟩
  | tail _ hlast ih =>
      obtain ⟨hlater, hmemory⟩ := ih.1.types hlast
      exact ⟨hlater, hmemory.trans ih.2⟩

/-- Recalling starts anew exactly if no sent message is shown. -/
theorem recallsLast_iff (h : s.Recalling) :
    RecallsLast render s ↔ s.prompt.position = none := by
  constructor
  · intro hlast
    by_contra hshown
    obtain ⟨place, hplace⟩ := Option.ne_none_iff_exists'.mp hshown
    -- the two texts are typed instead of each other, and the same one comes back
    have hback (text : String) :
        ((s.typeText text).prompt.up.1.down.1).value = text := by
      have htyped : Types render s (s.typeText text) := Types.key (.typeText text) rfl
      have hdown := (hlast _ (ReflTransGen.single htyped)).2 _ ReflTransGen.refl
      exact hdown.trans (Prompt.value_assign s.prompt text)
    have hsame (text : String) :
        ((s.typeText text).prompt.up.1.down.1).value = s.prompt.up.1.down.1.value := by
      obtain ⟨htyped, hmemory⟩ :=
        h.typed (Prompt.tells_display s.prompt text) (Prompt.memory_display s.prompt text)
      exact Prompt.value_up_down_of_shown h.recalls htyped.recalls hmemory hplace
    have hequal : "" = "a" := by
      rw [← hback "", ← hback "a", hsame "", hsame "a"]
    exact absurd hequal (by decide)
  · intro hposition typed htyped
    obtain ⟨hrecalling, hmemory⟩ := h.foldl_types htyped
    obtain ⟨hsent, hplace, -⟩ := Memory.mk.inj hmemory
    have hstands := Prompt.standsAt_of_typing hrecalling.recalls (hplace.trans hposition)
    have hup := hstands.up
    have hpositive : 0 < typed.prompt.sent.length :=
      List.length_pos_iff.mpr ((Prompt.recalls_iff _).mp hrecalling.recalls).2
    refine ⟨?_, ?_⟩
    · have hvalue := hup.value
      rw [List.getElem?_append_left (Nat.sub_lt hpositive Nat.one_pos), hsent,
        ← List.getLast?_eq_getElem?] at hvalue
      exact hvalue
    · intro handled htold
      have hrecalled : (typed.press render .up).Recalling := ⟨hrecalling.idle, hup.recalls⟩
      obtain ⟨-, hprompt⟩ := hrecalled.foldl_told htold
      have hdown := hup.down
      rw [Nat.sub_add_cancel hpositive, Nat.min_self] at hdown
      calc (handled.press render .down).prompt.value
          = (typed.press render .up).prompt.down.1.value := by rw [← hprompt]; rfl
        _ = typed.prompt.value := hdown.value_last

/-! ## Submissions -/

/-- The screen that is there when an input has it handle a submission: what was entered has
become the input of the conversation. -/
inductive Submits (render : Renderer) (s : Screen) : Input → Screen → Prop
  | submit : Submits render s .submit s
  | enter {text : String} {rest : List Notice} (hnotices : s.notices = .submitted text :: rest) :
      Submits render s .notice ({ s with notices := rest }.feed render (.edit text))
  | clearChat (hidle : s.conversation.streaming = false) :
      Submits render s (.press .clearChat)
        (s.feed render (.edit Conversation.clearCommand))

variable {given : Input}

/-- The input comes down to the submission, and what the prompt keeps is as it was before. -/
theorem Submits.applied (h : Submits render s given t) :
    (given.apply render s).prompt = (t.feed render .submit).prompt ∧
      (given.apply render s).conversation = (t.feed render .submit).conversation ∧
      t.prompt.memory = s.prompt.memory := by
  cases h with
  | submit => exact ⟨rfl, rfl, rfl⟩
  | enter hnotices =>
      rw [Input.apply, handleNotice, hnotices, prompt_feed_edit]
      exact ⟨rfl, rfl, rfl⟩
  | clearChat hidle =>
      rw [Input.apply, press, Screen.clearChat, if_neg (by simp [hidle]), prompt_feed_edit]
      exact ⟨rfl, rfl, rfl⟩

/-- A conversation that is emptied waits for input, and the prompt stands where it stood. -/
theorem recallsLast_iff_of_clear (h : Submits render s given t)
    (hclear : (t.conversation.handle render .submit).2 = .clear)
    (hsent : (given.apply render s).prompt.sent ≠ []) :
    RecallsLast render (given.apply render s) ↔ s.prompt.position = none := by
  obtain ⟨hprompt, hconversation, hbefore⟩ := h.applied
  have hhandle : t.conversation.streaming = false ∧
      t.conversation.handle render .submit = (t.conversation.clear, .clear) := by
    have hsubmit : t.conversation.handle render .submit = t.conversation.submit := rfl
    rw [hsubmit] at hclear ⊢
    obtain hnone | hquit | hemptied | ⟨-, -, hstart⟩ := Conversation.submit_cases t.conversation
    · rw [hnone] at hclear
      cases hclear
    · rw [hquit] at hclear
      cases hclear
    · exact hemptied
    · rw [hstart] at hclear
      cases hclear
  obtain ⟨hbetween, hhandle⟩ := hhandle
  have hfed := feed_eq rfl hhandle (by decide)
  have hmemory := memory_feed hhandle
  rw [if_neg (by decide), hbefore, ← hprompt] at hmemory
  have hidle : (given.apply render s).conversation.streaming = false := by
    rw [hconversation, hfed]
    exact hbetween
  have hunlocked : (given.apply render s).prompt.locked = false := by
    rw [hprompt, hfed]
    exact hbetween
  have hposition : (given.apply render s).prompt.position = s.prompt.position :=
    congrArg Memory.position hmemory
  rw [recallsLast_iff ⟨hidle, (Prompt.recalls_iff _).mpr ⟨hunlocked, hsent⟩⟩, hposition]

theorem position_of_startTurn (h : Submits render s given t)
    (hstart : (t.conversation.handle render .submit).2 = .startTurn) :
    (given.apply render s).prompt.position = none := by
  rcases hhandle : t.conversation.handle render .submit with ⟨next, action⟩
  rw [hhandle] at hstart
  subst hstart
  rw [h.applied.1]
  exact memory_feed hhandle

/-! ## While a reply is streamed -/

theorem memory_feed_of_streaming (hstreaming : s.conversation.streaming = true)
    (render : Renderer) (event : Event) :
    (s.feed render event).prompt.memory = s.prompt.memory := by
  rcases hhandle : s.conversation.handle render event with ⟨next, action⟩
  have haction : action ≠ .startTurn := by
    cases event with
    | submit =>
        have hrefused := Conversation.submit_of_streaming hstreaming
        cases hrefused.symm.trans hhandle
        decide
    | delta text =>
        rw [Conversation.handle_delta, if_pos hstreaming] at hhandle
        cases hhandle
        decide
    | done error result =>
        rw [Conversation.handle_done hstreaming] at hhandle
        cases hhandle
        decide
    | edit text =>
        rw [Conversation.handle_edit, if_pos hstreaming] at hhandle
        cases hhandle
        decide
    | resize width height =>
        cases hhandle
        decide
    | quit =>
        cases hhandle
        decide
  have hfed := memory_feed hhandle
  rwa [if_neg haction] at hfed

theorem memory_handle_of_streaming (hstreaming : s.conversation.streaming = true)
    (render : Renderer) (notice : Notice) :
    (s.handle render notice).prompt.memory = s.prompt.memory := by
  cases notice with
  | submitted text =>
      have hedited : (s.feed render (.edit text)).conversation.streaming = true := by
        rw [streaming_feed_edit, hstreaming]
      calc (s.handle render (.submitted text)).prompt.memory
          = (s.feed render (.edit text)).prompt.memory :=
            memory_feed_of_streaming hedited render .submit
        _ = s.prompt.memory := memory_feed_of_streaming hstreaming render (.edit text)
  | changed text =>
      have hedited := memory_feed_of_streaming hstreaming render (.edit text)
      rw [handle]
      dsimp only
      split
      · exact (Prompt.memory_assign _ _).trans hedited
      · exact hedited

/-- A prompt that is locked keeps what it has, whatever key is pressed. -/
theorem memory_press_of_streaming (h : s.Shows render)
    (hstreaming : s.conversation.streaming = true) (key : Key) :
    (s.press render key).prompt.memory = s.prompt.memory := by
  have hlocked : s.prompt.locked = true := h.locked.trans hstreaming
  cases key with
  | char c => exact Prompt.memory_replace _ _ _ _
  | backspace => exact Prompt.memory_replace _ _ _ _
  | delete => exact Prompt.memory_replace _ _ _ _
  | up =>
      rw [press, Prompt.up_of_locked hlocked]
      rfl
  | down =>
      rw [press, Prompt.down_of_locked hlocked]
      rfl
  | clearChat =>
      rw [press, clearChat, if_pos hstreaming]
      rfl
  | copyReply =>
      rw [press, copyReply]
      split
      · rfl
      · rfl
  | left => rfl
  | toEnd => rfl
  | enter => rfl
  | quit => rfl
  | toggleLog => rfl

theorem memory_move_of_streaming (h : s.Shows render)
    (hstreaming : s.conversation.streaming = true) (m : Move) :
    (m.apply render s).prompt.memory = s.prompt.memory := by
  cases m with
  | input given =>
      cases given with
      | edit text => exact memory_feed_of_streaming hstreaming render _
      | submit => exact memory_feed_of_streaming hstreaming render _
      | quit => exact memory_feed_of_streaming hstreaming render _
      | resize width height => exact memory_feed_of_streaming hstreaming render _
      | press key => exact memory_press_of_streaming h hstreaming key
      | paste text => exact Prompt.memory_paste _ _
      | typeText text => exact Prompt.memory_display _ _
      | notice =>
          rw [Move.apply, Input.apply, handleNotice]
          cases s.notices with
          | nil => rfl
          | cons oldest rest =>
              exact memory_handle_of_streaming (s := { s with notices := rest }) hstreaming render
                oldest
      | tick =>
          rw [Move.apply, Input.apply, tick]
          split
          · rfl
          · rfl
  | signal passed =>
      rw [Move.apply, workerSignal]
      split
      · rfl
      · rfl
  | ends ending =>
      rw [Move.apply, workerEnds]
      split
      · rfl
      · rfl
  | cancel =>
      rw [Move.apply, cancelWorker]
      split
      · rfl
      · rfl
  | deliver =>
      rw [Move.apply, handlePosted]
      cases s.posted with
      | nil => rfl
      | cons oldest rest =>
          exact memory_feed_of_streaming (s := { s with posted := rest }) hstreaming render
            oldest.event

/-- Whether a reply is being streamed before each of the given moves. -/
def Streams (render : Renderer) (s : Screen) : List Move → Prop
  | [] => True
  | m :: rest => s.conversation.streaming = true ∧ Streams render (m.apply render s) rest

theorem memory_foldl_of_streams (h : s.Shows render) {moves : List Move}
    (hstreams : Streams render s moves) :
    (moves.foldl (Move.apply render) s).Shows render ∧
      (moves.foldl (Move.apply render) s).prompt.memory = s.prompt.memory := by
  induction moves generalizing s with
  | nil => exact ⟨h, rfl⟩
  | cons m rest ih =>
      obtain ⟨hshows, hmemory⟩ := ih (shows_move h m) hstreams.2
      exact ⟨hshows, hmemory.trans (memory_move_of_streaming h hstreams.1 m)⟩

/-- In whichever order moves came before: a submission that empties the conversation lets the
prompt recall anew exactly if no sent message was being shown, however it was entered; and one
that begins a turn always does, once the reply has come. -/
theorem recallsLast_run_start (render : Renderer) (config : Config) (time : Log.Timestamp)
    (width height : Int) (logLevel : Option String) (moves : List Move) (given : Input)
    (submitting : Screen) :
    let s := moves.foldl (Move.apply render)
      (Screen.start render config time width height logLevel)
    let after := given.apply render s
    Submits render s given submitting →
    ((submitting.conversation.handle render .submit).2 = .clear → after.prompt.sent ≠ [] →
      (RecallsLast render after ↔ s.prompt.position = none)) ∧
    ((submitting.conversation.handle render .submit).2 = .startTurn →
      ∀ later, Streams render after later →
        let finished := later.foldl (Move.apply render) after
        finished.conversation.streaming = false → finished.prompt.sent ≠ [] →
          RecallsLast render finished) := by
  intro s after hsubmits
  have hshows : s.Shows render := by
    have hmoves := shows_foldl_apply (shows_start render config time width height logLevel)
      (moves.map Occurrence.move)
    rwa [List.foldl_map] at hmoves
  refine ⟨recallsLast_iff_of_clear hsubmits, ?_⟩
  intro hstart later hstreams finished hidle hsent
  obtain ⟨hfinished, hmemory⟩ := memory_foldl_of_streams (shows_input hshows given) hstreams
  have hunlocked : finished.prompt.locked = false := hfinished.locked.trans hidle
  refine (recallsLast_iff ⟨hidle, (Prompt.recalls_iff _).mpr ⟨hunlocked, hsent⟩⟩).mpr ?_
  calc finished.prompt.position
      = after.prompt.position := congrArg Memory.position hmemory
    _ = none := position_of_startTurn hsubmits hstart

/-- A message is typed, sent and answered, and what the prompt tells is handled. -/
def sending (text : String) : List Move :=
  [.input (.typeText text), .input (.press .enter), .input .notice, .input .notice,
    .ends (.replied ⟨"reply", none, 1⟩), .deliver, .input .notice]

/-- Two messages, and more moves after them. -/
def sendingTwo (moves : List Move) : List Move :=
  sending "one" ++ sending "two" ++ moves

def afterTwo (moves : List Move) : Screen :=
  (sendingTwo moves).foldl (Move.apply fun text _ => text)
    (Screen.start (fun text _ => text) ⟨"e", "k", "m", Config.defaultTimeout⟩ "t" 80 24 none)

/-- The last of two messages is recalled and sent again, and the user tries to recall another one
before the reply has come. -/
def sentAgain : List Move :=
  [.input (.press .up), .input .notice, .input (.press .enter)]

def repliedAgain : List Move :=
  [.input (.press .up), .ends (.replied ⟨"reply", none, 1⟩), .deliver]

theorem recallsLast_run_start_sentAgain :
    let render : Renderer := fun text _ => text
    let s := afterTwo sentAgain
    s.prompt.position = some 1 ∧
      RecallsLast render (repliedAgain.foldl (Move.apply render) (Input.notice.apply render s)) ∧
      RecallsLast render ((Input.press .clearChat).apply render (afterTwo [])) := by
  intro render s
  have hnotices : s.notices = [.submitted "two"] := by decide
  have hturn := (recallsLast_run_start render ⟨"e", "k", "m", Config.defaultTimeout⟩ "t" 80 24 none
    (sendingTwo sentAgain) .notice _ (Submits.enter (s := s) hnotices)).2
  have hstreams : Streams render (Input.notice.apply render s) repliedAgain :=
    ⟨by decide, by decide +kernel, by decide +kernel, trivial⟩
  have hidle : (afterTwo []).conversation.streaming = false := by decide
  have hclear := (recallsLast_run_start render ⟨"e", "k", "m", Config.defaultTimeout⟩ "t" 80 24 none
    (sendingTwo []) (.press .clearChat) _ (Submits.clearChat (s := afterTwo []) hidle)).1
  refine ⟨by decide, ?_, ?_⟩
  · exact hturn (by decide) repliedAgain hstreams (by decide +kernel) (by decide +kernel)
  · exact (hclear (by decide) (by decide +kernel)).mpr (by decide +kernel)

/-- The message sent last is recalled and the conversation is emptied.  Then Up shows the message
before it, and Down the message itself instead of what was typed. -/
theorem not_recallsLast_clearChat :
    let render : Renderer := fun text _ => text
    let s := afterTwo [.input (.press .up)]
    let after := (Input.press .clearChat).apply render s
    let recalled := (after.typeText "draft").press render .up
    after.prompt.sent = ["one", "two"] ∧ after.prompt.value = "" ∧
      recalled.prompt.value = "one" ∧ (recalled.press render .down).prompt.value = "two" ∧
      ¬RecallsLast render after := by
  intro render s after recalled
  have hsent : after.prompt.sent = ["one", "two"] := by decide
  have hrecalled : recalled.prompt.value = "one" := by decide
  refine ⟨hsent, by decide, hrecalled, by decide +kernel, ?_⟩
  intro hlast
  have htyped : Types render after (after.typeText "draft") :=
    Types.key (.typeText "draft") rfl
  have hshown := (hlast _ (ReflTransGen.single htyped)).1
  have hother : some recalled.prompt.value = some "one" := congrArg some hrecalled
  rw [hsent] at hshown
  exact absurd (hshown.trans hother) (by decide)

end Parley.Screen
