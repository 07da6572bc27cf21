import Parley.Proofs.Conversation.Command

/-!
# The history of a conversation

The history is a function of what happened: of the events in their order and the
actions that followed them.  A turn begins with an accepted submission and lasts
until the first closing event.  It leaves the question in the history, and the
reply unless the turn failed before any of it arrived.  All other events leave
nothing.
-/

namespace Parley

namespace Conversation

/-- An event with the action that followed it. -/
abbrev Step := Event × Action

namespace Step

/-- Whether a step begins a turn. -/
def begins : Step → Bool
  | (.submit, .startTurn) => true
  | _ => false

/-- Whether a step empties the conversation. -/
def empties : Step → Bool
  | (.submit, .clear) => true
  | _ => false

/-- The text of an edit that was accepted. -/
def accepted? : Step → Option String
  | (.edit text, .render) => some text
  | _ => none

def delta? : Step → Option String
  | (.delta text, _) => some text
  | _ => none

/-- The error, if there is one, of a closing event. -/
def closing? : Step → Option (Option Failure)
  | (.done error _, _) => some error
  | _ => none

/-- Whether a step is an edit or a submission. -/
def isInput : Step → Bool
  | (.edit _, _) => true
  | (.submit, _) => true
  | _ => false

end Step

/-! ## What a turn leaves -/

/-- The last text that was accepted, without the blanks at its ends. -/
def asked (before : List Step) : String :=
  Text.stripText ((before.filterMap Step.accepted?).getLast?.getD "")

/-- The pieces of a reply up to the first closing event. -/
def pieces (after : List Step) : List String :=
  (after.takeWhile fun step => step.closing?.isNone).filterMap Step.delta?

/-- What a turn commits of its reply, of which a part had arrived. -/
def committed (arrived : String) (after : List Step) : List Message :=
  match after.findSome? Step.closing? with
  | none => []
  | some error =>
      let reply := arrived ++ String.join (pieces after)
      if error.isNone || !reply.isEmpty then [⟨.assistant, reply⟩] else []

/-- The messages of the turns that begin in the second list and are not emptied in it;
the first list holds the steps before. -/
def historyOf (before : List Step) : List Step → List Message
  | [] => []
  | step :: after =>
      (if step.begins && !after.any Step.empties then
        ⟨.user, asked before⟩ :: committed "" after
      else []) ++ historyOf (before ++ [step]) after

/-! ## Steps of a run -/

/-- The steps of a run. -/
def steps (render : Renderer) (c : Conversation) : List Event → List Step
  | [] => []
  | event :: rest =>
      (event, (c.handle render event).2) :: steps render (c.handle render event).1 rest

theorem zip_handleAll (render : Renderer) (c : Conversation) (events : List Event) :
    events.zip (c.handleAll render events).2 = c.steps render events := by
  induction events generalizing c with
  | nil => rfl
  | cons event rest ih =>
      rw [steps, ← ih]
      rfl

theorem length_handleAll (render : Renderer) (c : Conversation) (events : List Event) :
    (c.handleAll render events).2.length = events.length := by
  induction events generalizing c with
  | nil => rfl
  | cons event rest ih => exact congrArg (· + 1) (ih _)

/-- The input is empty or the last text that was accepted. -/
def Tracks (c : Conversation) (before : List Step) : Prop :=
  c.input = "" ∨ (before.filterMap Step.accepted?).getLast? = some c.input

/-- What the turn of a state, if there is one, still commits. -/
def pending (c : Conversation) (after : List Step) : List Message :=
  if c.streaming then committed c.reply after else []

/-! ## What an event does to the history -/

theorem pieces_of_closing {step : Step} {error : Option Failure}
    (hstep : step.closing? = some error) (after : List Step) :
    pieces (step :: after) = [] := by
  rw [pieces, List.takeWhile_cons_of_neg (by simp [hstep]), List.filterMap_nil]

theorem pieces_of_open {step : Step} (hstep : step.closing? = none) (after : List Step) :
    pieces (step :: after) = step.delta?.toList ++ pieces after := by
  rw [pieces, List.takeWhile_cons_of_pos (by simp [hstep]), List.filterMap_cons]
  cases step.delta? <;> rfl

theorem committed_of_open {step : Step} (hstep : step.closing? = none) (arrived : String)
    (after : List Step) :
    committed arrived (step :: after) =
      committed (arrived ++ String.join step.delta?.toList) after := by
  rw [committed, committed, List.findSome?_cons, hstep, pieces_of_open hstep,
    String.join_append, String.append_assoc]

theorem committed_delta (arrived text : String) (action : Action) (after : List Step) :
    committed arrived ((.delta text, action) :: after) = committed (arrived ++ text) after := by
  rw [committed_of_open rfl]
  simp [Step.delta?]

theorem committed_other {step : Step} (hclosing : step.closing? = none)
    (hdelta : step.delta? = none) (arrived : String) (after : List Step) :
    committed arrived (step :: after) = committed arrived after := by
  rw [committed_of_open hclosing, hdelta]
  simp

theorem committed_done (arrived : String) (error : Option Failure)
    (result : Option StreamResult) (action : Action) (after : List Step) :
    committed arrived ((.done error result, action) :: after) =
      if error.isNone || !arrived.isEmpty then [⟨.assistant, arrived⟩] else [] := by
  have hclosing : Step.closing? (.done error result, action) = some error := rfl
  rw [committed, List.findSome?_cons, pieces_of_closing hclosing, hclosing]
  simp

theorem pending_of_idle {c : Conversation} (hidle : c.streaming = false)
    (after : List Step) : c.pending after = [] := by
  rw [pending, if_neg (by simp [hidle])]

theorem pending_of_streaming {c : Conversation} (hstreaming : c.streaming = true)
    (after : List Step) : c.pending after = committed c.reply after := by
  rw [pending, if_pos hstreaming]

/-- A step that neither closes a turn nor adds to a reply leaves what is pending. -/
theorem pending_other (c : Conversation) {step : Step} (hclosing : step.closing? = none)
    (hdelta : step.delta? = none) (after : List Step) :
    c.pending (step :: after) = c.pending after := by
  rw [pending, pending, committed_other hclosing hdelta]

theorem asked_eq {c : Conversation} {before : List Step} (htracks : c.Tracks before)
    (hinput : c.input ≠ "") : asked before = Text.stripText c.input := by
  have hlast := htracks.resolve_left hinput
  rw [asked, hlast, Option.getD_some]

theorem history_report (c : Conversation) (error : Option Failure) :
    (error.elim c c.report).history = c.history := by
  cases error with
  | none => rfl
  | some error => rfl

/-- The end of a turn commits its reply, unless it failed before any of it arrived. -/
theorem history_finish (render : Renderer) (c : Conversation) (error : Option Failure)
    (finishReason : Option String) :
    (c.finish render error finishReason).history =
      c.history ++ if error.isNone || !c.reply.isEmpty then [⟨.assistant, c.reply⟩] else [] := by
  rw [finish]
  split
  · exact history_report (c.commit render) error
  · rw [List.append_nil]
    exact history_report c error

theorem input_finish (render : Renderer) (c : Conversation) (error : Option Failure)
    (finishReason : Option String) : (c.finish render error finishReason).input = c.input := by
  rw [finish]
  cases error with
  | none => rfl
  | some error =>
      split
      · rfl
      · rfl

theorem input_resize (render : Renderer) (c : Conversation) (width height : Int) :
    (c.resize render width height).input = c.input := by
  rw [resize]
  split
  · rfl
  · rfl

/-- What a turn works on is the same in two states. -/
structure SameTurn (c after : Conversation) : Prop where
  history : after.history = c.history
  streaming : after.streaming = c.streaming
  reply : after.reply = c.reply

theorem SameTurn.refl (c : Conversation) : c.SameTurn c :=
  ⟨rfl, rfl, rfl⟩

theorem sameTurn_edit (c : Conversation) (text : String) : c.SameTurn (c.edit text) := by
  rw [edit]
  split
  · exact SameTurn.refl c
  · exact ⟨rfl, rfl, rfl⟩

theorem sameTurn_resize (render : Renderer) (c : Conversation) (width height : Int) :
    c.SameTurn (c.resize render width height) := by
  rw [resize]
  split
  · exact ⟨rfl, rfl, rfl⟩
  · exact ⟨rfl, rfl, rfl⟩

/-- What a conversation holds and still awaits, with no change by an event that begins
and empties nothing. -/
theorem SameTurn.history_pending {c after : Conversation} {step : Step} {rest : List Step}
    (hsame : c.SameTurn after) (hclosing : step.closing? = none)
    (hdelta : step.delta? = none) :
    after.history ++ after.pending rest = c.history ++ c.pending (step :: rest) := by
  rw [pending_other c hclosing hdelta, pending, pending, hsame.history, hsame.streaming,
    hsame.reply]

/-- A step that begins and empties nothing adds nothing. -/
theorem history_of_quiet {step : Step} (hempties : step.empties = false)
    (hbegins : step.begins = false) {kept held begun : List Message} (hkept : kept = held) :
    kept = (if step.empties then [] else held) ++ if step.begins then begun else [] := by
  rw [hempties, hbegins, if_neg Bool.false_ne_true, if_neg Bool.false_ne_true,
    List.append_nil]
  exact hkept

/-- What a conversation holds and still awaits after an event is what it held and awaited
before, if the event does not empty it, and the question of a turn that begins. -/
theorem history_handle {c : Conversation} {before : List Step} (htracks : c.Tracks before)
    (render : Renderer) (event : Event) (after : List Step) :
    (c.handle render event).1.history ++ (c.handle render event).1.pending after =
      (if Step.empties (event, (c.handle render event).2) then []
        else c.history ++ c.pending ((event, (c.handle render event).2) :: after)) ++
      (if Step.begins (event, (c.handle render event).2) then
        ⟨.user, asked before⟩ :: committed "" after
      else []) := by
  cases event with
  | edit text =>
      exact history_of_quiet rfl rfl ((sameTurn_edit c text).history_pending rfl rfl)
  | submit =>
      have hhandle : c.handle render .submit = c.submit := rfl
      rw [hhandle]
      obtain hnone | hquit | ⟨hidle, hclear⟩ | ⟨hidle, hasks, hstart⟩ := submit_cases c
      · rw [hnone]
        exact history_of_quiet rfl rfl ((SameTurn.refl c).history_pending rfl rfl)
      · rw [hquit]
        exact history_of_quiet rfl rfl ((SameTurn.refl c).history_pending rfl rfl)
      · rw [hclear, if_pos (by simp [Step.empties]), if_neg (by simp [Step.begins])]
        exact pending_of_idle hidle after
      -- a turn needs an input, which is then the last text that was accepted
      · rw [hstart, if_neg (by simp [Step.empties]), if_pos (by simp [Step.begins]),
          asked_eq htracks (ne_empty_of_asks hasks), pending_of_idle hidle, List.append_nil]
        exact List.append_assoc _ _ _
  | resize width height =>
      exact history_of_quiet rfl rfl
        ((sameTurn_resize render c width height).history_pending rfl rfl)
  | delta text =>
      refine history_of_quiet rfl rfl ?_
      by_cases hstreaming : c.streaming
      · have hadd : c.addDelta text = { c with reply := c.reply ++ text } := by
          rw [addDelta, if_pos hstreaming]
        have hadded : (c.addDelta text).streaming = true := by
          rw [hadd]
          exact hstreaming
        rw [pending_of_streaming hstreaming, committed_delta, handle,
          pending_of_streaming hadded, hadd]
      · have hidle : c.streaming = false := Bool.eq_false_iff.mpr hstreaming
        have hadd : c.addDelta text = c := by
          rw [addDelta, if_neg hstreaming]
        rw [pending_of_idle hidle, handle, hadd, pending_of_idle hidle]
  | done error result =>
      refine history_of_quiet rfl rfl ?_
      by_cases hstreaming : c.streaming
      · rw [pending_of_streaming hstreaming, committed_done, handle, if_pos hstreaming]
        rw [pending_of_idle rfl, List.append_nil]
        exact history_finish render c error _
      · have hidle : c.streaming = false := Bool.eq_false_iff.mpr hstreaming
        rw [pending_of_idle hidle, handle, if_neg hstreaming, pending_of_idle hidle]
  | quit =>
      exact history_of_quiet rfl rfl ((SameTurn.refl c).history_pending rfl rfl)

/-! ## The input -/

theorem tracks_of_input {c after : Conversation} {before : List Step} {step : Step}
    (htracks : c.Tracks before) (hinput : after.input = c.input ∨ after.input = "")
    (hstep : step.accepted? = none) : after.Tracks (before ++ [step]) := by
  have haccepted : (before ++ [step]).filterMap Step.accepted? =
      before.filterMap Step.accepted? := by
    rw [List.filterMap_append, List.filterMap_cons_none hstep]
    exact List.append_nil _
  rw [Tracks, haccepted]
  obtain hsame | hempty := hinput
  · rw [hsame]
    exact htracks
  · exact Or.inl hempty

/-- An event leaves the input the last text that was accepted, or empty. -/
theorem tracks_handle {c : Conversation} {before : List Step} (htracks : c.Tracks before)
    (render : Renderer) (event : Event) :
    (c.handle render event).1.Tracks (before ++ [(event, (c.handle render event).2)]) := by
  cases event with
  | edit text =>
      by_cases hstreaming : c.streaming
      · rw [handle, edit, if_pos hstreaming, if_pos hstreaming]
        exact tracks_of_input htracks (Or.inl rfl) rfl
      · rw [handle, edit, if_neg hstreaming, if_neg hstreaming]
        refine Or.inr ?_
        rw [List.filterMap_append]
        exact List.getLast?_concat
  | submit =>
      have hhandle : c.handle render .submit = c.submit := rfl
      rw [hhandle]
      obtain hnone | hquit | ⟨-, hclear⟩ | ⟨-, -, hstart⟩ := submit_cases c
      · rw [hnone]
        exact tracks_of_input htracks (Or.inl rfl) rfl
      · rw [hquit]
        exact tracks_of_input htracks (Or.inl rfl) rfl
      · rw [hclear]
        exact tracks_of_input htracks (Or.inr rfl) rfl
      · rw [hstart]
        exact tracks_of_input htracks (Or.inr rfl) rfl
  | resize width height =>
      have hsame : (c.resize render width height).input = c.input := by
        rw [resize]
        split
        · rfl
        · rfl
      exact tracks_of_input htracks (Or.inl hsame) rfl
  | delta text =>
      have hsame : (c.addDelta text).input = c.input := by
        rw [addDelta]
        split
        · rfl
        · rfl
      exact tracks_of_input htracks (Or.inl hsame) rfl
  | done error result =>
      rw [handle]
      split
      · exact tracks_of_input htracks (Or.inl (input_finish render c error _)) rfl
      · exact tracks_of_input htracks (Or.inl rfl) rfl
  | quit => exact tracks_of_input htracks (Or.inl rfl) rfl

/-! ## Runs -/

/-- A run leaves what was there and what was still to come, unless it is emptied on the
way, and the turns that begin in it. -/
theorem history_handleAll {c : Conversation} {before : List Step} (htracks : c.Tracks before)
    (render : Renderer) (events : List Event) :
    (c.handleAll render events).1.history =
      (if (c.steps render events).any Step.empties then []
        else c.history ++ c.pending (c.steps render events)) ++
      historyOf before (c.steps render events) := by
  induction events generalizing c before with
  | nil =>
      have hpending : c.pending [] = [] := by
        rw [pending]
        split
        · rfl
        · rfl
      rw [steps, historyOf, hpending, List.append_nil, List.append_nil]
      rfl
  | cons event rest ih =>
      have hrest := ih (tracks_handle htracks render event)
      have hfirst := history_handle htracks render event
        ((c.handle render event).1.steps render rest)
      have hlast : (c.handleAll render (event :: rest)).1 =
          ((c.handle render event).1.handleAll render rest).1 := rfl
      rw [hlast, hrest, steps, historyOf, List.any_cons, ← List.append_assoc]
      refine congrArg (· ++ historyOf _ _) ?_
      -- what a later step empties is gone on both sides
      by_cases hempties : ((c.handle render event).1.steps render rest).any Step.empties
      · simp only [hempties, Bool.or_true, Bool.not_true, Bool.and_false, if_true,
          Bool.false_eq_true, if_false, List.append_nil]
      · have hkept := Bool.eq_false_iff.mpr hempties
        simp only [hkept, Bool.or_false, Bool.not_false, Bool.and_true, Bool.false_eq_true,
          if_false]
        exact hfirst

/-! ## Inside a turn -/

theorem steps_cons {c : Conversation} {render : Renderer} {events : List Event}
    {step : Step} {rest : List Step} (hsteps : c.steps render events = step :: rest) :
    ∃ event left, step = (event, (c.handle render event).2) ∧
      rest = (c.handle render event).1.steps render left := by
  cases events with
  | nil => exact absurd hsteps (List.cons_ne_nil _ _).symm
  | cons event left =>
      rw [steps, List.cons.injEq] at hsteps
      exact ⟨event, left, hsteps.1.symm, hsteps.2.symm⟩

/-- The rest of the steps of a run are the steps of a run. -/
theorem steps_of_append {c : Conversation} {render : Renderer} {events : List Event}
    {before rest : List Step} (hsteps : c.steps render events = before ++ rest) :
    ∃ (reached : Conversation) (left : List Event), rest = reached.steps render left := by
  induction before generalizing c events with
  | nil => exact ⟨c, events, hsteps.symm⟩
  | cons step before ih =>
      obtain ⟨event, left, -, hrest⟩ := steps_cons hsteps
      exact ih hrest.symm

theorem streaming_of_begins {c : Conversation} {render : Renderer} {event : Event}
    (hbegins : Step.begins (event, (c.handle render event).2) = true) :
    (c.handle render event).1.streaming = true := by
  cases event with
  | submit =>
      have hhandle : c.handle render .submit = c.submit := rfl
      rw [hhandle] at hbegins ⊢
      obtain hnone | hquit | ⟨-, hclear⟩ | ⟨-, -, hstart⟩ := submit_cases c
      · rw [hnone] at hbegins
        exact absurd hbegins (by simp [Step.begins])
      · rw [hquit] at hbegins
        exact absurd hbegins (by simp [Step.begins])
      · rw [hclear] at hbegins
        exact absurd hbegins (by simp [Step.begins])
      · rw [hstart]
        rfl
  | edit text => exact absurd hbegins (by simp [Step.begins])
  | resize width height => exact absurd hbegins (by simp [Step.begins])
  | delta text => exact absurd hbegins (by simp [Step.begins])
  | done error result => exact absurd hbegins (by simp [Step.begins])
  | quit => exact absurd hbegins (by simp [Step.begins])

/-- A turn goes on until a closing event. -/
theorem streaming_handle {c : Conversation} (hstreaming : c.streaming = true)
    (render : Renderer) {event : Event}
    (hopen : Step.closing? (event, (c.handle render event).2) = none) :
    (c.handle render event).1.streaming = true := by
  cases event with
  | edit text => exact (sameTurn_edit c text).streaming.trans hstreaming
  | submit =>
      rw [handle, submit, if_pos hstreaming]
      exact hstreaming
  | resize width height =>
      exact (sameTurn_resize render c width height).streaming.trans hstreaming
  | delta text =>
      rw [handle, addDelta, if_pos hstreaming]
      exact hstreaming
  | done error result => exact absurd hopen (Option.some_ne_none _)
  | quit => exact hstreaming

theorem streaming_steps {c : Conversation} (hstreaming : c.streaming = true)
    {render : Renderer} {events : List Event} {during rest : List Step}
    (hsteps : c.steps render events = during ++ rest)
    (hopen : ∀ step ∈ during, step.closing? = none) :
    ∃ (reached : Conversation) (left : List Event),
      reached.streaming = true ∧ rest = reached.steps render left := by
  induction during generalizing c events with
  | nil => exact ⟨c, events, hstreaming, hsteps.symm⟩
  | cons step during ih =>
      obtain ⟨event, left, hstep, hrest⟩ := steps_cons hsteps
      have hfirst : step.closing? = none := hopen step List.mem_cons_self
      rw [hstep] at hfirst
      exact ih (streaming_handle hstreaming render hfirst) hrest.symm
        fun step hstep => hopen step (List.mem_cons_of_mem _ hstep)

theorem refused_of_streaming {c : Conversation} (hstreaming : c.streaming = true)
    (render : Renderer) {event : Event}
    (hinput : Step.isInput (event, (c.handle render event).2) = true) :
    (c.handle render event).2 = .none := by
  cases event with
  | edit text => rw [handle, if_pos hstreaming]
  | submit => rw [handle, submit, if_pos hstreaming]
  | resize width height => exact absurd hinput (by simp [Step.isInput])
  | delta text => exact absurd hinput (by simp [Step.isInput])
  | done error result => exact absurd hinput (by simp [Step.isInput])
  | quit => exact absurd hinput (by simp [Step.isInput])

/-- No edit and no submission is accepted inside a turn. -/
theorem refused_of_turn {c : Conversation} {render : Renderer} {events : List Event}
    {before during after : List Step} {first step : Step}
    (hsteps : c.steps render events = before ++ first :: (during ++ step :: after))
    (hbegins : first.begins = true) (hopen : ∀ step ∈ during, step.closing? = none)
    (hinput : step.isInput = true) : step.2 = .none := by
  obtain ⟨asking, toldEvents, hasking⟩ := steps_of_append hsteps
  obtain ⟨event, left, hfirst, hturn⟩ := steps_cons hasking.symm
  rw [hfirst] at hbegins
  obtain ⟨reached, ahead, hstreaming, hrest⟩ :=
    streaming_steps (streaming_of_begins hbegins) hturn.symm hopen
  obtain ⟨event, left, hstep, -⟩ := steps_cons hrest.symm
  rw [hstep] at hinput ⊢
  exact refused_of_streaming hstreaming render hinput

/-- The history after a run of a fresh conversation is that of its turns since it was last
emptied.  Every event has its action, and inside a turn edits and submissions have
none. -/
theorem history_handleAll_start (render : Renderer) (model sessionKey endpoint : String)
    (width height : Int) (events : List Event) :
    let run := (start model sessionKey endpoint width height).handleAll render events
    run.2.length = events.length ∧
    run.1.history = historyOf [] (events.zip run.2) ∧
    ∀ (before during after : List Step) (first step : Step),
      events.zip run.2 = before ++ first :: (during ++ step :: after) →
      first.begins = true → (∀ step ∈ during, step.closing? = none) →
      step.isInput = true → step.2 = .none := by
  intro run
  have hzip := zip_handleAll render (start model sessionKey endpoint width height) events
  refine ⟨length_handleAll render _ events, ?_, ?_⟩
  · have htracks : (start model sessionKey endpoint width height).Tracks [] := Or.inl rfl
    rw [hzip, history_handleAll htracks render events]
    have hpending := pending_of_idle (c := start model sessionKey endpoint width height) rfl
      ((start model sessionKey endpoint width height).steps render events)
    rw [hpending]
    split
    · rfl
    · rfl
  · intro before during after first step hsteps hbegins hopen hinput
    rw [hzip] at hsteps
    exact refused_of_turn hsteps hbegins hopen hinput

/-- Two turns, the first with an edit and a submission inside it and a late piece after
it, the second failed before anything arrived. -/
def twoTurns : List Event :=
  [.delta "early", .edit " first ", .submit, .delta "ab", .edit "other", .submit, .delta "c",
    .done none none, .delta "late", .edit "second", .submit, .done (some (.deadline "late")) none]

theorem history_handleAll_start_twoTurns :
    let run := (start "m" "k" "e" 80 24).handleAll (fun text _ => text) twoTurns
    run.1.history = [⟨.user, "first"⟩, ⟨.assistant, "abc"⟩, ⟨.user, "second"⟩] ∧
      (run.2[4]? = some .none ∧ run.2[5]? = some .none) := by
  intro run
  obtain ⟨-, hhistory, -⟩ := history_handleAll_start (fun text _ => text) "m" "k" "e" 80 24
    twoTurns
  exact ⟨hhistory.trans (by decide +kernel), by decide +kernel⟩

end Conversation

end Parley
