import Parley.Proofs.Conversation.Resizing
import Parley.Proofs.Screen.Core
import Parley.Proofs.Screen.Telling

/-!
# What the screen shows

The screen is brought in line with the conversation after every event.  Views are only
added behind those that are there, so this needs the views that are there to be those of
the first entries, at the width at hand.  Events that add entries keep this; an event that
empties the conversation drops all views, and a resize draws them again.
-/

namespace Parley

/-! ## Handling one event -/

namespace Conversation

variable {c : Conversation}

theorem handle_edit (render : Renderer) (c : Conversation) (text : String) :
    c.handle render (.edit text) = (c.edit text, if c.streaming then .none else .render) :=
  rfl

theorem handle_delta (render : Renderer) (c : Conversation) (text : String) :
    c.handle render (.delta text) = (c.addDelta text, if c.streaming then .render else .none) :=
  rfl

theorem handle_done (hstreaming : c.streaming = true) (render : Renderer)
    (error : Option Failure) (result : Option StreamResult) :
    c.handle render (.done error result) =
      (c.finish render error (result.bind StreamResult.finishReason), .render) :=
  if_pos hstreaming

theorem handle_done_of_idle (hidle : c.streaming = false) (render : Renderer)
    (error : Option Failure) (result : Option StreamResult) :
    c.handle render (.done error result) = (c, .none) :=
  if_neg (Bool.eq_false_iff.mp hidle)

end Conversation

namespace Screen

/-! ## The invariant -/

/-- The reply that is being streamed, as it is to be shown. -/
def liveReply (s : Screen) : Option (List View.Block) :=
  if s.conversation.streaming then some (View.streamBlocks s.conversation.reply s.spinner)
  else none

/-- The views of all entries at the width at hand. -/
def entryViews (c : Conversation) : List EntryView :=
  c.entries.map (EntryView.of c.width)

/-- The screen shows the conversation as it is. -/
structure Shows (render : Renderer) (s : Screen) : Prop where
  views : s.views = entryViews s.conversation
  drawn : s.conversation.IsDrawn render
  live : s.live = s.liveReply
  locked : s.prompt.locked = s.conversation.streaming

variable {render : Renderer} {s : Screen}

/-! ## Bringing the screen in line -/

/-- Views of the first entries are completed by those that are missing. -/
theorem views_syncViews (hviews : s.views <+: entryViews s.conversation) :
    s.syncViews.views = entryViews s.conversation := by
  have hlength : s.views.length ≤ s.conversation.entries.length := by
    simpa [entryViews] using hviews.length_le
  rw [syncViews]
  dsimp only
  rw [if_neg (Nat.not_lt.mpr hlength), List.map_drop]
  exact List.prefix_iff_eq_append.mp hviews

theorem shows_refresh (hdrawn : s.conversation.IsDrawn render)
    (hviews : s.views <+: entryViews s.conversation) : s.refresh.Shows render :=
  ⟨views_syncViews hviews, hdrawn, rfl, rfl⟩

/-- Views that are drawn again are those of the first entries. -/
theorem views_redrawViews (hlength : s.views.length ≤ s.conversation.entries.length) :
    s.redrawViews.views = (entryViews s.conversation).take s.views.length := by
  apply List.ext_getElem
  · simp [redrawViews, entryViews, hlength]
  · intro index hindex _
    have hentry : index < s.conversation.entries.length := by
      have hview : index < s.views.length := by simpa [redrawViews] using hindex
      omega
    simp [redrawViews, entryViews, List.getElem?_eq_getElem hentry]

/-! ## Events -/

/-- What an action makes of a screen before it is brought in line. -/
def acted (s : Screen) : Action → Screen
  | .startTurn => s.beginTurn
  | .clear => s.showCleared
  | .quit => { s with exited := true }
  | .none | .render => s

theorem feed_eq {event : Event} (hsize : event.size? = none) {next : Conversation}
    {action : Action} (hhandle : s.conversation.handle render event = (next, action))
    (haction : action ≠ .quit) :
    s.feed render event = (acted { s with conversation := next } action).refresh := by
  rw [feed, dispatch, hhandle]
  cases event with
  | resize width height => exact absurd hsize (Option.some_ne_none _)
  | _ =>
      cases action with
      | quit => exact absurd rfl haction
      | _ => rfl

theorem feed_of_quit {event : Event} {next : Conversation}
    (hhandle : s.conversation.handle render event = (next, .quit)) :
    s.feed render event = { s with conversation := next, exited := true } := by
  rw [feed, dispatch, hhandle]

theorem feed_resize (width height : Int) :
    s.feed render (.resize width height) =
      (redrawViews { s with conversation := s.conversation.resize render width height }).refresh :=
  rfl

/-- An action leaves the conversation as it is, and keeps the views or drops all. -/
theorem views_acted (s : Screen) (action : Action) :
    (s.acted action).conversation = s.conversation ∧
      ((s.acted action).views = s.views ∨ (s.acted action).views = []) := by
  cases action with
  | startTurn =>
      refine ⟨congrArg Core.conversation (core_beginTurn s), Or.inl ?_⟩
      rw [acted, beginTurn, cancelWorker]
      split
      · rfl
      · rfl
  | clear => exact ⟨rfl, Or.inr rfl⟩
  | quit => exact ⟨rfl, Or.inl rfl⟩
  | none => exact ⟨rfl, Or.inl rfl⟩
  | render => exact ⟨rfl, Or.inl rfl⟩

/-- Views of the first entries that are there after an event are enough to show them all. -/
theorem shows_feed_of_prefix (hdrawn : s.conversation.IsDrawn render) {event : Event}
    (hsize : event.size? = none) {next : Conversation} {action : Action}
    (hhandle : s.conversation.handle render event = (next, action)) (haction : action ≠ .quit)
    (hviews : (acted { s with conversation := next } action).views <+: entryViews next) :
    (s.feed render event).Shows render := by
  have hnext : next.IsDrawn render := by
    have hhandled := Conversation.isDrawn_handle hdrawn event
    rwa [hhandle] at hhandled
  have hconversation := (views_acted { s with conversation := next } action).1
  rw [feed_eq hsize hhandle haction]
  apply shows_refresh
  · rw [hconversation]
    exact hnext
  · rw [hconversation]
    exact hviews

/-- Entries that are added behind the others get their views. -/
theorem shows_feed_of_grown (h : s.Shows render) {event : Event}
    (hsize : event.size? = none) {next : Conversation} {action : Action}
    (hhandle : s.conversation.handle render event = (next, action)) (haction : action ≠ .quit)
    (hwidth : next.width = s.conversation.width)
    (hentries : s.conversation.entries <+: next.entries) :
    (s.feed render event).Shows render := by
  apply shows_feed_of_prefix h.drawn hsize hhandle haction
  obtain hkept | hdropped := (views_acted { s with conversation := next } action).2
  · rw [hkept, h.views, entryViews, entryViews, hwidth]
    exact hentries.map _
  · rw [hdropped]
    exact List.nil_prefix

theorem shows_feed_quit (h : s.Shows render) {event : Event}
    (hhandle : s.conversation.handle render event = (s.conversation, .quit)) :
    (s.feed render event).Shows render := by
  rw [feed_of_quit hhandle]
  exact ⟨h.views, h.drawn, h.live, h.locked⟩

theorem shows_feed_submit (h : s.Shows render) : (s.feed render .submit).Shows render := by
  obtain hnone | hquit | ⟨-, hclear⟩ | ⟨-, -, hstart⟩ :=
    Conversation.submit_cases s.conversation
  · exact shows_feed_of_grown h rfl hnone (by decide) rfl (List.prefix_refl _)
  · exact shows_feed_quit h hquit
  · exact shows_feed_of_prefix h.drawn rfl hclear (by decide) List.nil_prefix
  · exact shows_feed_of_grown h rfl hstart (by decide) rfl (List.prefix_append _ _)

theorem length_resize (render : Renderer) (c : Conversation) (width height : Int) :
    (c.resize render width height).entries.length = c.entries.length := by
  rw [Conversation.resize]
  split
  · rfl
  · exact List.length_map _

/-- A resize leaves no view as it was drawn for another width. -/
theorem shows_feed_resize (h : s.Shows render) (width height : Int) :
    (s.feed render (.resize width height)).Shows render := by
  have hlength : s.views.length = (s.conversation.resize render width height).entries.length := by
    rw [h.views, entryViews, List.length_map, length_resize]
  rw [feed_resize]
  apply shows_refresh
  · exact Conversation.isDrawn_handle h.drawn (.resize width height)
  · rw [views_redrawViews (Nat.le_of_eq hlength)]
    exact List.take_prefix _ _

theorem entries_prefix_finish (render : Renderer) (c : Conversation) (error : Option Failure)
    (finishReason : Option String) :
    c.entries <+: (c.finish render error finishReason).entries := by
  have hkept : c.entries <+:
      (if error.isNone || !c.reply.isEmpty then c.commit render else c).entries := by
    split
    · exact List.prefix_append _ _
    · exact List.prefix_refl _
  rw [Conversation.finish]
  cases error with
  | none => exact hkept
  | some error => exact hkept.trans (List.prefix_append _ _)

theorem width_finish (render : Renderer) (c : Conversation) (error : Option Failure)
    (finishReason : Option String) :
    (c.finish render error finishReason).width = c.width := by
  rw [Conversation.finish]
  cases error with
  | none => rfl
  | some error =>
      dsimp only [Option.elim_some, Conversation.report]
      split
      · rfl
      · rfl

theorem shows_feed (h : s.Shows render) (event : Event) :
    (s.feed render event).Shows render := by
  cases event with
  | submit => exact shows_feed_submit h
  | resize width height => exact shows_feed_resize h width height
  | quit => exact shows_feed_quit h rfl
  | edit text =>
      apply shows_feed_of_grown h rfl (Conversation.handle_edit render s.conversation text)
      · split <;> decide
      · rw [Conversation.edit]
        split <;> rfl
      · rw [Conversation.edit]
        split <;> exact List.prefix_refl _
  | delta text =>
      apply shows_feed_of_grown h rfl (Conversation.handle_delta render s.conversation text)
      · split <;> decide
      · rw [Conversation.addDelta]
        split <;> rfl
      · rw [Conversation.addDelta]
        split <;> exact List.prefix_refl _
  | done error result =>
      cases hstreaming : s.conversation.streaming with
      | true =>
          exact shows_feed_of_grown h rfl (Conversation.handle_done hstreaming render error result)
            (by decide) (width_finish ..) (entries_prefix_finish ..)
      | false =>
          exact shows_feed_of_grown h rfl
            (Conversation.handle_done_of_idle hstreaming render error result) (by decide) rfl
            (List.prefix_refl _)

/-! ## Everything that may happen -/

/-- The prompt may change its text, not its lock. -/
theorem shows_withPrompt (h : s.Shows render) {told : Prompt × List Notice}
    (htold : s.prompt.Tells told) : (s.withPrompt told).Shows render :=
  ⟨h.views, h.drawn, h.live, htold.locked.trans h.locked⟩

theorem shows_handle (h : s.Shows render) (notice : Notice) :
    (s.handle render notice).Shows render := by
  cases notice with
  | submitted text => exact shows_feed (shows_feed h _) _
  | changed text =>
      have hfed := shows_feed h (.edit text)
      rw [handle]
      dsimp only
      split
      · exact shows_withPrompt hfed (Prompt.tells_assign _ _)
      · exact hfed

theorem shows_press (h : s.Shows render) (key : Key) : (s.press render key).Shows render := by
  cases key with
  | char c => exact shows_withPrompt h (Prompt.tells_replace _ _ _ _)
  | backspace => exact shows_withPrompt h (Prompt.tells_replace _ _ _ _)
  | delete => exact shows_withPrompt h (Prompt.tells_replace _ _ _ _)
  | up => exact shows_withPrompt h (Prompt.tells_up _)
  | down => exact shows_withPrompt h (Prompt.tells_down _)
  | left => exact ⟨h.views, h.drawn, h.live, h.locked⟩
  | toEnd => exact ⟨h.views, h.drawn, h.live, h.locked⟩
  | enter => exact ⟨h.views, h.drawn, h.live, h.locked⟩
  | quit => exact ⟨h.views, h.drawn, h.live, h.locked⟩
  | toggleLog => exact ⟨h.views, h.drawn, h.live, h.locked⟩
  | copyReply =>
      rw [press, copyReply]
      split
      · exact ⟨h.views, h.drawn, h.live, h.locked⟩
      · exact ⟨h.views, h.drawn, h.live, h.locked⟩
  | clearChat =>
      rw [press, clearChat]
      split
      · exact ⟨h.views, h.drawn, h.live, h.locked⟩
      · have hfed := shows_feed (shows_feed h (.edit Conversation.clearCommand)) .submit
        exact ⟨hfed.views, hfed.drawn, hfed.live, hfed.locked⟩

theorem shows_input (h : s.Shows render) (given : Input) :
    (given.apply render s).Shows render := by
  cases given with
  | edit text => exact shows_feed h _
  | submit => exact shows_feed h _
  | quit => exact shows_feed h _
  | press key => exact shows_press h key
  | paste text => exact shows_withPrompt h (Prompt.tells_paste _ _)
  | typeText text => exact shows_withPrompt h (Prompt.tells_display _ _)
  | resize width height =>
      have hfed := shows_feed h (.resize width height)
      exact ⟨hfed.views, hfed.drawn, hfed.live, hfed.locked⟩
  | notice =>
      rw [Input.apply, handleNotice]
      cases s.notices with
      | nil => exact h
      | cons oldest rest =>
          have hrest : Shows render { s with notices := rest } :=
            ⟨h.views, h.drawn, h.live, h.locked⟩
          exact shows_handle hrest oldest
  | tick =>
      rw [Input.apply, tick]
      split
      · exact shows_refresh h.drawn (h.views ▸ List.prefix_refl _)
      · exact h

/-- The worker touches nothing of what is shown of the conversation. -/
theorem shows_move (h : s.Shows render) (m : Move) : (m.apply render s).Shows render := by
  cases m with
  | input given => exact shows_input h given
  | signal passed =>
      rw [Move.apply, workerSignal]
      split
      · exact ⟨h.views, h.drawn, h.live, h.locked⟩
      · exact h
  | ends ending =>
      rw [Move.apply, workerEnds]
      split
      · exact ⟨h.views, h.drawn, h.live, h.locked⟩
      · exact h
  | cancel =>
      rw [Move.apply, cancelWorker]
      split
      · exact ⟨h.views, h.drawn, h.live, h.locked⟩
      · exact h
  | deliver =>
      rw [Move.apply, handlePosted]
      cases s.posted with
      | nil => exact h
      | cons oldest rest =>
          have hrest : Shows render { s with posted := rest } :=
            ⟨h.views, h.drawn, h.live, h.locked⟩
          exact shows_feed hrest oldest.event

/-- What may happen to a screen to which events of any kind may also come on their own. -/
inductive Occurrence
  | move (made : Move)
  | event (dispatched : Event)

def Occurrence.apply (render : Renderer) (s : Screen) : Occurrence → Screen
  | move made => made.apply render s
  | event dispatched => s.feed render dispatched

theorem shows_apply (h : s.Shows render) (occurrence : Occurrence) :
    (occurrence.apply render s).Shows render := by
  cases occurrence with
  | move made => exact shows_move h made
  | event dispatched => exact shows_feed h dispatched

theorem shows_foldl_apply (h : s.Shows render) (occurrences : List Occurrence) :
    (occurrences.foldl (Occurrence.apply render) s).Shows render := by
  induction occurrences generalizing s with
  | nil => exact h
  | cons occurrence rest ih => exact ih (shows_apply h occurrence)

theorem shows_start (render : Renderer) (config : Config) (time : Log.Timestamp)
    (width height : Int) (logLevel : Option String) :
    (Screen.start render config time width height logLevel).Shows render := by
  let first := Conversation.start config.model config.sessionKey config.baseUrl
    Conversation.defaultWidth Conversation.defaultHeight
  have hempty : first.IsDrawn render := fun entry hentry => absurd hentry List.not_mem_nil
  have hdrawn : (first.resize render width height).IsDrawn render :=
    Conversation.isDrawn_handle hempty (.resize width height)
  let panel : LogPanel := logLevel.elim {} (LogPanel.enable {} time)
  have hshows := @shows_refresh render
    { conversation := first.resize render width height, time, panel } hdrawn List.nil_prefix
  exact ⟨hshows.views, hshows.drawn, hshows.live, hshows.locked⟩

/-- Whatever happens to the screen, in whichever order: its views are those of the entries
of the conversation, one for each and in their order, at the width at hand, where each
reply is drawn for that width; the reply that is being streamed is shown exactly while it
is, and as far as it has come; and the prompt is locked for as long. -/
theorem shows_run_start (render : Renderer) (config : Config) (time : Log.Timestamp)
    (width height : Int) (logLevel : Option String) (occurrences : List Occurrence) :
    let s := occurrences.foldl (Occurrence.apply render)
      (Screen.start render config time width height logLevel)
    let c := s.conversation
    s.views = c.entries.map (fun entry => ⟨entry.speaker, View.entryBlocks entry c.width⟩) ∧
    (∀ entry ∈ c.entries, entry.drawn = entry.drawing render (max (c.width - 2) 1)) ∧
    (c.streaming = true → s.live = some (View.streamBlocks c.reply s.spinner)) ∧
    (c.streaming = false → s.live = none) ∧
    s.prompt.locked = c.streaming := by
  intro s c
  have hshows : s.Shows render :=
    shows_foldl_apply (shows_start render config time width height logLevel) occurrences
  refine ⟨hshows.views, hshows.drawn, ?_, ?_, hshows.locked⟩
  · intro hstreaming
    rw [hshows.live, liveReply, if_pos hstreaming]
  · intro hidle
    rw [hshows.live, liveReply, if_neg (Bool.eq_false_iff.mp hidle)]

end Screen

end Parley
