import Mathlib.Logic.Function.Iterate
import Parley.Proofs.Screen.Coupling
import Parley.Proofs.Screen.Views

/-!
# Typing ahead

The prompt runs ahead of the conversation: what was typed or sent waits in a queue, while
the screen may change the prompt and the conversation on its own.  Two facts survive every
order of events: the notices that wait turn the input of the conversation into the text
that the prompt shows, and so do those behind any text that waits to be sent.
-/

namespace Parley.Screen

/-! ## What waits -/

/-- The text that is told last, if the first one is told before all. -/
def lastTold (text : String) : List Notice → String
  | [] => text
  | .changed other :: rest => lastTold other rest
  | .submitted _ :: rest => lastTold text rest

theorem lastTold_changed (text shown : String) (notices : List Notice) :
    lastTold text (notices ++ [.changed shown]) = shown := by
  induction notices generalizing text with
  | nil => rfl
  | cons notice rest ih =>
      cases notice with
      | changed other => exact ih other
      | submitted sent => exact ih text

theorem lastTold_submitted (text sent : String) (notices : List Notice) :
    lastTold text (notices ++ [.submitted sent]) = lastTold text notices := by
  induction notices generalizing text with
  | nil => rfl
  | cons notice rest ih =>
      cases notice with
      | changed other => exact ih other
      | submitted sent => exact ih text

/-- Telling the last text once more, and first, changes nothing. -/
theorem lastTold_self (text : String) (notices : List Notice) :
    lastTold (lastTold text notices) notices = lastTold text notices := by
  induction notices generalizing text with
  | nil => rfl
  | cons notice rest ih =>
      cases notice with
      | changed other => rfl
      | submitted sent => exact ih text

/-- The input of the conversation, the text that the prompt shows, and what waits between
the two. -/
structure Typing where
  input : String
  shown : String
  notices : List Notice

def typing (s : Screen) : Typing :=
  ⟨s.conversation.input, s.prompt.value, s.notices⟩

namespace Typing

/-- The prompt shows a text, and tells of it if it is another one. -/
def assign (t : Typing) (text : String) : Typing :=
  { t with
    shown := text
    notices := t.notices ++ if text = t.shown then [] else [.changed text] }

/-- The conversation takes a text as its input. -/
def accept (t : Typing) (text : String) : Typing :=
  { t with input := text }

/-- The conversation has got something to answer. -/
def clear (t : Typing) : Typing :=
  (t.accept "").assign ""

/-- What waits leads from the input to the text that is shown, and from every text that
waits to be sent. -/
structure InStep (t : Typing) : Prop where
  input : lastTold t.input t.notices = t.shown
  submitted : ∀ text rest, .submitted text :: rest <:+ t.notices → lastTold text rest = t.shown

variable {t : Typing}

/-- After the text that is shown was told, it does not matter what was told before. -/
theorem inStep_changed (input shown : String) (notices : List Notice) :
    InStep ⟨input, shown, notices ++ [.changed shown]⟩ := by
  refine ⟨lastTold_changed input shown notices, ?_⟩
  intro text rest hsuffix
  obtain hnil | ⟨earlier, hearlier, -⟩ := List.suffix_concat_iff.mp hsuffix
  · exact absurd hnil (List.cons_ne_nil _ _)
  · cases earlier with
    | nil => exact absurd (List.cons.inj hearlier).1 (by simp)
    | cons first earlier =>
        have hrest : rest = earlier ++ [.changed shown] := (List.cons.inj hearlier).2
        rw [hrest]
        exact lastTold_changed text shown earlier

theorem InStep.assign (h : t.InStep) (text : String) : (t.assign text).InStep := by
  rw [Typing.assign]
  split
  case isTrue hsame =>
      rw [List.append_nil, hsame]
      exact h
  case isFalse => exact inStep_changed _ _ _

/-- A text that is shown may as well be the input. -/
theorem InStep.assign_accept (h : t.InStep) (text : String) :
    ((t.accept text).assign text).InStep := by
  rw [Typing.assign, accept]
  dsimp only
  split
  case isTrue hsame =>
      rw [List.append_nil, hsame]
      refine ⟨?_, h.submitted⟩
      rw [← h.input]
      exact lastTold_self _ _
  case isFalse => exact inStep_changed _ _ _

theorem InStep.submit (h : t.InStep) :
    InStep { t with notices := t.notices ++ [.submitted t.shown] } := by
  refine ⟨(lastTold_submitted _ _ _).trans h.input, ?_⟩
  intro text rest hsuffix
  obtain hnil | ⟨earlier, hearlier, hwaiting⟩ := List.suffix_concat_iff.mp hsuffix
  · exact absurd hnil (List.cons_ne_nil _ _)
  · cases earlier with
    | nil =>
        obtain ⟨hsent, hrest⟩ := List.cons.inj hearlier
        rw [hrest, Notice.submitted.inj hsent]
        rfl
    | cons first earlier =>
        have hrest : rest = earlier ++ [.submitted t.shown] := (List.cons.inj hearlier).2
        rw [← (List.cons.inj hearlier).1] at hwaiting
        rw [hrest, lastTold_submitted]
        exact h.submitted text earlier hwaiting

/-! ## Handling the oldest notice -/

/-- What waits, with a notice before it. -/
def after (notice : Notice) (t : Typing) : Typing :=
  { t with notices := notice :: t.notices }

theorem InStep.accept_changed {text : String} (h : (after (.changed text) t).InStep) :
    (t.accept text).InStep :=
  ⟨h.input, fun sent later hsuffix =>
    h.submitted sent later (hsuffix.trans (List.suffix_cons _ _))⟩

theorem InStep.refuse_changed {text : String} (h : (after (.changed text) t).InStep) :
    (t.assign t.input).InStep :=
  h.accept_changed.assign_accept t.input

theorem InStep.accept_submitted {text : String} (h : (after (.submitted text) t).InStep) :
    (t.accept text).InStep :=
  ⟨h.submitted text t.notices (List.suffix_refl _), fun sent later hsuffix =>
    h.submitted sent later (hsuffix.trans (List.suffix_cons _ _))⟩

theorem InStep.refuse_submitted {text : String} (h : (after (.submitted text) t).InStep) :
    t.InStep :=
  ⟨h.input, fun sent later hsuffix =>
    h.submitted sent later (hsuffix.trans (List.suffix_cons _ _))⟩

/-! ## How much waits -/

def weight : Notice → Nat
  | .changed _ => 2
  | .submitted _ => 4

/-- A bound of how many notices there are still to handle: a text that is sent may empty the
prompt, which is told again, and so may a text that is taken back. -/
def pending (t : Typing) : Nat :=
  sumOf (t.notices.map weight) + if t.shown = t.input then 0 else 1

theorem pending_after (notice : Notice) (t : Typing) :
    (after notice t).pending = weight notice + t.pending :=
  Nat.add_assoc _ _ _

theorem pending_accept (t : Typing) (text : String) :
    (t.accept text).pending ≤ t.pending + 1 := by
  have hdiffers : (if t.shown = text then 0 else 1) ≤ 1 := by
    split
    · exact Nat.zero_le 1
    · exact Nat.le_refl 1
  exact Nat.add_le_add (Nat.le_add_right _ _) hdiffers

theorem pending_assign_input (t : Typing) : (t.assign t.input).pending ≤ t.pending + 1 := by
  rw [assign, pending, pending]
  by_cases hsame : t.input = t.shown
  · simp [hsame]
  · simp [hsame, Ne.symm hsame, weight, sumOf, sumOf_append]

theorem pending_clear (t : Typing) : t.clear.pending ≤ t.pending + 2 :=
  calc t.clear.pending
      ≤ (t.accept "").pending + 1 := pending_assign_input (t.accept "")
    _ ≤ t.pending + 1 + 1 := Nat.add_le_add_right (pending_accept t "") 1

end Typing

/-! ## What an event does -/

theorem typing_withPrompt {s : Screen} {told : Prompt × List Notice}
    (htold : s.prompt.Tells told) :
    (s.withPrompt told).typing = s.typing.assign told.1.value := by
  rw [withPrompt, typing, Typing.assign, htold.notices]
  rfl

theorem typing_assign (s : Screen) (text : String) :
    (s.withPrompt (s.prompt.assign text)).typing = s.typing.assign text := by
  rw [typing_withPrompt (Prompt.tells_assign _ _), Prompt.value_assign]

theorem typing_beginTurn (s : Screen) : s.beginTurn.typing = s.typing.assign "" := by
  let message := (s.conversation.history.getLast?.map Message.content).getD ""
  rw [beginTurn, cancelWorker]
  split
  · exact typing_assign { s with prompt := s.prompt.remember message } ""
  · exact typing_assign { s with prompt := s.prompt.remember message } ""

/-- An action that answers a text that was sent empties the prompt. -/
theorem typing_acted (s : Screen) (action : Action) :
    (s.acted action).typing =
      if action = .startTurn ∨ action = .clear then s.typing.assign "" else s.typing := by
  cases action with
  | startTurn => exact typing_beginTurn s
  | clear => exact typing_assign s ""
  | quit => rfl
  | none => rfl
  | render => rfl

variable {render : Renderer} {s : Screen}

theorem typing_feed {event : Event} {next : Conversation} {action : Action}
    (hhandle : s.conversation.handle render event = (next, action)) :
    (s.feed render event).typing =
      if action = .startTurn ∨ action = .clear then (s.typing.accept next.input).assign ""
      else s.typing.accept next.input := by
  by_cases hquit : action = .quit
  · subst hquit
    rw [feed_of_quit hhandle]
    rfl
  · cases hsize : event.size? with
    | none =>
        rw [feed_eq hsize hhandle hquit]
        exact typing_acted { s with conversation := next } action
    | some size =>
        cases event with
        | resize width height =>
            obtain ⟨rfl, rfl⟩ := Prod.mk.inj hhandle
            rfl
        | _ => exact absurd hsize (by simp [Event.size?])

theorem dispatch_edit (text : String) :
    s.dispatch render (.edit text) =
      (s.feed render (.edit text), if s.conversation.streaming then .none else .render) := by
  refine Prod.ext rfl ?_
  rw [dispatch, Conversation.handle_edit]
  cases s.conversation.streaming with
  | true => rfl
  | false => rfl

theorem typing_feed_edit (render : Renderer) (s : Screen) (text : String) :
    (s.feed render (.edit text)).typing =
      if s.conversation.streaming then s.typing else s.typing.accept text := by
  rw [typing_feed (Conversation.handle_edit render s.conversation text), Conversation.edit]
  cases s.conversation.streaming with
  | true => rfl
  | false => rfl

theorem typing_feed_submit (render : Renderer) (s : Screen) :
    (s.feed render .submit).typing = s.typing ∨
      (s.feed render .submit).typing = s.typing.clear := by
  have hhandle : s.conversation.handle render .submit = s.conversation.submit := rfl
  obtain hnone | hquit | ⟨-, hclear⟩ | ⟨-, -, hstart⟩ :=
    Conversation.submit_cases s.conversation
  · exact Or.inl (typing_feed (hhandle.trans hnone))
  · exact Or.inl (typing_feed (hhandle.trans hquit))
  · exact Or.inr (typing_feed (hhandle.trans hclear))
  · exact Or.inr (typing_feed (hhandle.trans hstart))

theorem typing_feed_resize (width height : Int) :
    (s.feed render (.resize width height)).typing = s.typing := by
  rw [feed_resize]
  exact congrArg s.typing.accept (Conversation.input_resize render s.conversation width height)

theorem typing_feed_delta (text : String) : (s.feed render (.delta text)).typing = s.typing := by
  rw [typing_feed (Conversation.handle_delta render s.conversation text), Conversation.addDelta]
  cases s.conversation.streaming with
  | true => rfl
  | false => rfl

theorem typing_feed_done (error : Option Failure) (result : Option StreamResult) :
    (s.feed render (.done error result)).typing = s.typing := by
  cases hstreaming : s.conversation.streaming with
  | true =>
      rw [typing_feed (Conversation.handle_done hstreaming render error result),
        Conversation.input_finish]
      rfl
  | false => exact typing_feed (Conversation.handle_done_of_idle hstreaming render error result)

/-! ## Notices -/

/-- Text that was typed becomes the input, or is taken back. -/
theorem typing_handle_changed (render : Renderer) (s : Screen) (text : String) :
    (s.handle render (.changed text)).typing = s.typing.accept text ∨
      (s.handle render (.changed text)).typing = s.typing.assign s.typing.input := by
  have hfed := typing_feed_edit render s text
  rw [handle, dispatch_edit]
  cases hstreaming : s.conversation.streaming with
  | false =>
      rw [hstreaming, if_neg Bool.false_ne_true] at hfed
      exact Or.inl hfed
  | true =>
      rw [hstreaming, if_pos rfl] at hfed
      have hinput : (s.feed render (.edit text)).conversation.input = s.conversation.input :=
        congrArg Typing.input hfed
      dsimp only
      rw [hinput]
      by_cases hsame : text = s.conversation.input
      · rw [if_neg (by simp [hsame]), hfed, hsame]
        exact Or.inl rfl
      · rw [if_pos (by simp [hsame]), typing_assign, hfed]
        exact Or.inr rfl

theorem inStep_feed_submit (h : s.typing.InStep) : (s.feed render .submit).typing.InStep := by
  obtain hkept | hcleared := typing_feed_submit render s
  · rw [hkept]
    exact h
  · rw [hcleared]
    exact h.assign_accept ""

theorem inStep_handle {notice : Notice} (h : (s.typing.after notice).InStep) :
    (s.handle render notice).typing.InStep := by
  cases notice with
  | changed text =>
      obtain haccepted | hrefused := typing_handle_changed render s text
      · rw [haccepted]
        exact h.accept_changed
      · rw [hrefused]
        exact h.refuse_changed
  | submitted text =>
      apply inStep_feed_submit
      rw [typing_feed_edit]
      split
      · exact h.refuse_submitted
      · exact h.accept_submitted

theorem pending_feed_edit (render : Renderer) (s : Screen) (text : String) :
    (s.feed render (.edit text)).typing.pending ≤ s.typing.pending + 1 := by
  rw [typing_feed_edit]
  split
  · exact Nat.le_succ _
  · exact Typing.pending_accept _ _

theorem pending_feed_submit (render : Renderer) (s : Screen) :
    (s.feed render .submit).typing.pending ≤ s.typing.pending + 2 := by
  obtain hkept | hcleared := typing_feed_submit render s
  · rw [hkept]
    exact Nat.le_add_right _ _
  · rw [hcleared]
    exact Typing.pending_clear _

/-- Handling a notice leaves less to handle than there was with it. -/
theorem pending_handle (render : Renderer) (s : Screen) (notice : Notice) :
    (s.handle render notice).typing.pending < (s.typing.after notice).pending := by
  rw [Typing.pending_after]
  cases notice with
  | changed text =>
      have hle : (s.handle render (.changed text)).typing.pending ≤ s.typing.pending + 1 := by
        obtain haccepted | hrefused := typing_handle_changed render s text
        · rw [haccepted]
          exact Typing.pending_accept _ _
        · rw [hrefused]
          exact Typing.pending_assign_input _
      rw [Typing.weight]
      omega
  | submitted text =>
      have hedited := pending_feed_edit render s text
      have hsubmitted := pending_feed_submit render (s.feed render (.edit text))
      rw [Typing.weight, handle]
      omega

theorem inStep_handleNotice (h : s.typing.InStep) : (s.handleNotice render).typing.InStep := by
  rw [handleNotice]
  cases hnotices : s.notices with
  | nil => exact h
  | cons notice rest =>
      have hafter : s.typing = (typing { s with notices := rest }).after notice :=
        congrArg (Typing.mk s.conversation.input s.prompt.value) hnotices
      rw [hafter] at h
      exact inStep_handle h

/-- Handling what waits comes to an end. -/
theorem notices_handleNotice (render : Renderer) (s : Screen) :
    ∃ n, ((handleNotice render)^[n] s).notices = [] := by
  induction hpending : s.typing.pending using Nat.strongRecOn generalizing s with
  | ind pending ih =>
      cases hnotices : s.notices with
      | nil => exact ⟨0, hnotices⟩
      | cons notice rest =>
          have hafter : s.typing = (typing { s with notices := rest }).after notice :=
            congrArg (Typing.mk s.conversation.input s.prompt.value) hnotices
          have hless := pending_handle render { s with notices := rest } notice
          rw [← hafter, hpending] at hless
          obtain ⟨n, hn⟩ := ih _ hless _ rfl
          refine ⟨n + 1, ?_⟩
          rw [Function.iterate_succ_apply, handleNotice, hnotices]
          exact hn

/-! ## Everything that may happen -/

theorem inStep_withPrompt (h : s.typing.InStep) {told : Prompt × List Notice}
    (htold : s.prompt.Tells told) : (s.withPrompt told).typing.InStep := by
  rw [typing_withPrompt htold]
  exact h.assign _

/-- The command that empties the conversation takes the place of what was typed, and goes
with it. -/
theorem typing_clearChat (hidle : s.conversation.streaming = false) :
    (s.clearChat render).typing = s.typing.clear := by
  have hclears : Conversation.clears Conversation.clearCommand = true := by decide +kernel
  let edited := s.feed render (.edit Conversation.clearCommand)
  have hconversation : edited.conversation =
      { s.conversation with input := Conversation.clearCommand } := by
    have hcore := core_feed
      (Conversation.handle_edit render s.conversation Conversation.clearCommand)
      (by rw [hidle]; decide)
    rw [Conversation.edit, if_neg (by simp [hidle])] at hcore
    exact congrArg Core.conversation hcore
  have hsubmit : edited.conversation.handle render .submit =
      (edited.conversation.clear, .clear) := by
    rw [hconversation]
    exact Conversation.submit_of_clears hidle hclears
  have htyping : edited.typing = s.typing.accept Conversation.clearCommand := by
    rw [typing_feed_edit, if_neg (by simp [hidle])]
  rw [clearChat, if_neg (by simp [hidle])]
  calc (edited.feed render .submit).typing
      = (edited.typing.accept "").assign "" := typing_feed hsubmit
    _ = s.typing.clear := by rw [htyping]; rfl

theorem inStep_press (h : s.typing.InStep) (key : Key) :
    (s.press render key).typing.InStep := by
  cases key with
  | char c => exact inStep_withPrompt h (Prompt.tells_replace _ _ _ _)
  | backspace => exact inStep_withPrompt h (Prompt.tells_replace _ _ _ _)
  | delete => exact inStep_withPrompt h (Prompt.tells_replace _ _ _ _)
  | up => exact inStep_withPrompt h (Prompt.tells_up _)
  | down => exact inStep_withPrompt h (Prompt.tells_down _)
  | left => exact h
  | toEnd => exact h
  | enter => exact h.submit
  | quit => exact h
  | toggleLog => exact h
  | copyReply =>
      rw [press, copyReply]
      split
      · exact h
      · exact h
  | clearChat =>
      rw [press]
      cases hstreaming : s.conversation.streaming with
      | true =>
          rw [clearChat, if_pos hstreaming]
          exact h
      | false =>
          rw [typing_clearChat hstreaming]
          exact h.assign_accept ""

/-- Whether a move changes the input and passes the prompt by. -/
def Move.bypassesPrompt : Move → Bool
  | .input (.edit _) => true
  | _ => false

theorem inStep_input (h : s.typing.InStep) {given : Input}
    (hprompt : Move.bypassesPrompt (.input given) = false) :
    (given.apply render s).typing.InStep := by
  cases given with
  | edit text => exact absurd hprompt (by simp [Move.bypassesPrompt])
  | submit => exact inStep_feed_submit h
  | quit =>
      have hquit : (s.feed render .quit).typing = s.typing := typing_feed rfl
      rw [Input.apply, hquit]
      exact h
  | press key => exact inStep_press h key
  | paste text => exact inStep_withPrompt h (Prompt.tells_paste _ _)
  | typeText text => exact inStep_withPrompt h (Prompt.tells_display _ _)
  | notice => exact inStep_handleNotice h
  | resize width height =>
      have hresize : (s.resize render width height).typing = s.typing :=
        typing_feed_resize width height
      rw [Input.apply, hresize]
      exact h
  | tick =>
      rw [Input.apply, tick]
      split
      · exact h
      · exact h

/-- Workers post nothing that changes the input. -/
theorem typing_handlePosted {records : List TurnRecord} {running : List Nat}
    (h : Coupled s.core records running) : (s.handlePosted render).typing = s.typing := by
  rw [handlePosted]
  cases hposted : s.posted with
  | nil => rfl
  | cons oldest rest =>
      obtain ⟨turn, event⟩ := oldest
      obtain ⟨-, ⟨piece, hpiece, -⟩ | ⟨error, result, -, -, hdone, -⟩⟩ :=
        h.flow.oldest hposted
      · rw [hpiece]
        exact typing_feed_delta piece
      · rw [hdone]
        exact typing_feed_done error result

theorem inStep_move {w : World} (hcoupled : w.Coupled) (h : w.screen.typing.InStep) {m : Move}
    (hprompt : m.bypassesPrompt = false) : (m.apply render w.screen).typing.InStep := by
  cases m with
  | input given => exact inStep_input h hprompt
  | signal passed =>
      rw [Move.apply, workerSignal]
      split
      · exact h
      · exact h
  | ends ending =>
      rw [Move.apply, workerEnds]
      split
      · exact h
      · exact h
  | cancel =>
      rw [Move.apply, cancelWorker]
      split
      · exact h
      · exact h
  | deliver =>
      rw [Move.apply, typing_handlePosted hcoupled]
      exact h

theorem inStep_run (render : Renderer) {w : World} (hcoupled : w.Coupled)
    (h : w.screen.typing.InStep) {moves : List Move}
    (hprompt : ∀ m ∈ moves, m.bypassesPrompt = false) :
    (w.run render moves).screen.typing.InStep := by
  induction moves generalizing w with
  | nil => exact h
  | cons m rest ih =>
      apply ih (World.coupled_move hcoupled render m)
      · rw [World.screen_move]
        exact inStep_move hcoupled h (hprompt m List.mem_cons_self)
      · intro later hlater
        exact hprompt later (List.mem_cons_of_mem _ hlater)

theorem inStep_start (render : Renderer) (config : Config) (time : Log.Timestamp)
    (width height : Int) (logLevel : Option String) :
    (Screen.start render config time width height logLevel).typing.InStep := by
  refine ⟨Conversation.input_resize .., ?_⟩
  intro text rest hsuffix
  exact absurd (List.suffix_nil.mp hsuffix) (List.cons_ne_nil _ _)

theorem value_of_inStep (h : s.typing.InStep) (hnotices : s.notices = []) :
    s.prompt.value = s.conversation.input := by
  have hinput := h.input
  rw [typing, hnotices] at hinput
  exact hinput.symm

/-- In whichever order the user types, recalls, sends and clears, the worker delivers, and
what the prompt told is handled: once nothing of it waits, the prompt shows the input of the
conversation.  Handling what waits, with nothing else in between, leads there. -/
theorem value_eq_input_run_start (render : Renderer) (config : Config) (time : Log.Timestamp)
    (width height : Int) (logLevel : Option String) (moves : List Move)
    (hprompt : ∀ m ∈ moves, m.bypassesPrompt = false) :
    let s := moves.foldl (Move.apply render)
      (Screen.start render config time width height logLevel)
    (s.notices = [] → s.prompt.value = s.conversation.input) ∧
    ∃ n, let settled := (handleNotice render)^[n] s
      settled.notices = [] ∧ settled.prompt.value = settled.conversation.input := by
  intro s
  let first := Screen.start render config time width height logLevel
  have hstep : s.typing.InStep := by
    have hrun := inStep_run render (w := World.start first)
      (World.coupled_start render config time width height logLevel)
      (inStep_start render config time width height logLevel) hprompt
    rwa [World.screen_run] at hrun
  refine ⟨value_of_inStep hstep, ?_⟩
  obtain ⟨n, hn⟩ := notices_handleNotice render s
  have hsettled : ((handleNotice render)^[n] s).typing.InStep :=
    Function.Iterate.rec (fun s : Screen => s.typing.InStep) hstep
      (fun _ h => inStep_handleNotice h) n
  exact ⟨n, hn, value_of_inStep hsettled hn⟩

/-- While the reply streams the user types ahead, sends and clears, and the reply ends
before what the prompt told is handled; so the next turn begins, and once that is cancelled,
more is typed. -/
def typedAhead : List Move :=
  [.input (.typeText "one"), .input (.press .enter), .input (.press (.char 'x')),
    .input .notice, .input .notice, .input (.typeText "two"), .signal (.delta "reply"),
    .input (.press .enter), .input .notice, .input (.press .clearChat), .deliver,
    .ends (.replied ⟨"reply", none, 1⟩), .input (.press (.char '!')), .deliver,
    .input .notice, .input .notice, .input .notice, .input .notice, .input .notice,
    .input .notice, .cancel, .deliver, .input (.typeText "three"), .input .notice]

theorem value_eq_input_run_start_typedAhead :
    let s := typedAhead.foldl (Move.apply fun text _ => text)
      (Screen.start (fun text _ => text) ⟨"e", "k", "m", Config.defaultTimeout⟩ "t" 80 24 none)
    (∀ m ∈ typedAhead, m.bypassesPrompt = false) ∧ s.notices = [] ∧
      s.conversation.history = [⟨.user, "one"⟩, ⟨.assistant, "reply"⟩, ⟨.user, "two"⟩] ∧
      s.prompt.value = "three" ∧ s.prompt.value = s.conversation.input := by
  intro s
  have hprompt : ∀ m ∈ typedAhead, m.bypassesPrompt = false := by decide
  have hnotices : s.notices = [] := by decide +kernel
  have hsettled := (value_eq_input_run_start (fun text _ => text)
    ⟨"e", "k", "m", Config.defaultTimeout⟩ "t" 80 24 none typedAhead hprompt).1
  exact ⟨hprompt, hnotices, by decide +kernel, by decide +kernel, hsettled hnotices⟩

end Parley.Screen
