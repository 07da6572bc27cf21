import Parley.Proofs.Conversation.History

/-!
# What is shown and what is sent

The history goes to the server with the next request, the entries stand before
the user.  They are two lists, and each is changed by several operations.  Yet the
history is always what the entries of the user and of the assistant say, in their
order, whichever operations came before: also those that no event leads to, such as
the end of a turn that was never begun, or emptying the conversation in the middle of
one.
-/

namespace Parley

/-- The message that an entry shows; an error is not a message. -/
def Entry.message? (entry : Entry) : Option Message :=
  entry.speaker.role?.map fun role => ⟨role, entry.raw⟩

namespace Conversation

/-- The messages before the eyes of the user. -/
def shown (c : Conversation) : List Message :=
  c.entries.filterMap Entry.message?

/-- What can be done to a conversation, by way of an event or directly. -/
inductive Operation
  | handle (event : Event)
  | edit (text : String)
  | submit
  | startTurn (content : String)
  | addDelta (text : String)
  | finish (error : Option Failure) (finishReason : Option String)
  | clear
  | resize (width height : Int)
  | snapshot
  | setInput (text : String)
  deriving Repr, DecidableEq

/-- The conversation after an operation. -/
def perform (render : Renderer) (c : Conversation) : Operation → Conversation
  | .handle event => (c.handle render event).1
  | .edit text => c.edit text
  | .submit => c.submit.1
  | .startTurn content => c.startTurn content
  | .addDelta text => c.addDelta text
  | .finish error finishReason => c.finish render error finishReason
  | .clear => c.clear
  | .resize width height => c.resize render width height
  | .snapshot => c
  | .setInput text => { c with input := text }

/-- The conversation after operations in their order. -/
def performAll (render : Renderer) (c : Conversation) (operations : List Operation) :
    Conversation :=
  operations.foldl (perform render) c

/-- What would be sent is what is shown. -/
def Agrees (c : Conversation) : Prop :=
  c.history = c.shown

/-! ## Single operations -/

theorem Agrees.of_same {c after : Conversation} (hc : c.Agrees)
    (hhistory : after.history = c.history) (hentries : after.entries = c.entries) :
    after.Agrees := by
  rw [Agrees, shown, hhistory, hentries]
  exact hc

theorem agrees_edit {c : Conversation} (hc : c.Agrees) (text : String) :
    (c.edit text).Agrees := by
  rw [edit]
  split
  · exact hc
  · exact hc.of_same rfl rfl

theorem agrees_addDelta {c : Conversation} (hc : c.Agrees) (text : String) :
    (c.addDelta text).Agrees := by
  rw [addDelta]
  split
  · exact hc.of_same rfl rfl
  · exact hc

theorem agrees_startTurn {c : Conversation} (hc : c.Agrees) (content : String) :
    (c.startTurn content).Agrees := by
  have hshown : (c.startTurn content).shown = c.shown ++ [⟨.user, content⟩] :=
    List.filterMap_append
  rw [Agrees, hshown, ← hc]
  rfl

theorem agrees_clear (c : Conversation) : c.clear.Agrees := rfl

theorem agrees_submit {c : Conversation} (hc : c.Agrees) : c.submit.1.Agrees := by
  obtain hnone | hquit | ⟨-, hclear⟩ | ⟨-, -, hstart⟩ := submit_cases c
  · rw [hnone]
    exact hc
  · rw [hquit]
    exact hc
  · rw [hclear]
    exact agrees_clear c
  · rw [hstart]
    exact agrees_startTurn hc _

theorem agrees_commit {c : Conversation} (hc : c.Agrees) (render : Renderer) :
    (c.commit render).Agrees := by
  have hshown : (c.commit render).shown = c.shown ++ [⟨.assistant, c.reply⟩] :=
    List.filterMap_append
  rw [Agrees, hshown, ← hc]
  rfl

/-- An error is shown and not sent. -/
theorem agrees_report {c : Conversation} (hc : c.Agrees) (error : Failure) :
    (c.report error).Agrees := by
  have hshown : (c.report error).shown = c.shown ++ [] := List.filterMap_append
  rw [Agrees, hshown, List.append_nil, ← hc]
  rfl

theorem agrees_finish {c : Conversation} (hc : c.Agrees) (render : Renderer)
    (error : Option Failure) (finishReason : Option String) :
    (c.finish render error finishReason).Agrees := by
  have hkept : (if error.isNone || !c.reply.isEmpty then c.commit render else c).Agrees := by
    split
    · exact agrees_commit hc render
    · exact hc
  rw [finish]
  cases error with
  | none => exact hkept.of_same rfl rfl
  | some error => exact (agrees_report hkept error).of_same rfl rfl

/-- Drawing an entry again does not change what it says. -/
theorem message?_redraw (render : Renderer) (width : Int) (entry : Entry) :
    (redraw render width entry).message? = entry.message? := by
  rcases entry with ⟨speaker, raw, drawn⟩
  cases speaker <;> rfl

theorem agrees_resize {c : Conversation} (hc : c.Agrees) (render : Renderer)
    (width height : Int) : (c.resize render width height).Agrees := by
  rw [resize]
  split
  · exact hc.of_same rfl rfl
  · rw [Agrees, shown, List.filterMap_map]
    have hmessages : Entry.message? ∘ redraw render (contentWidth { c with width, height }) =
        Entry.message? := by
      funext entry
      exact message?_redraw render _ entry
    rw [hmessages]
    exact hc

theorem agrees_handle {c : Conversation} (hc : c.Agrees) (render : Renderer)
    (event : Event) : (c.handle render event).1.Agrees := by
  cases event with
  | edit text => exact agrees_edit hc text
  | submit => exact agrees_submit hc
  | resize width height => exact agrees_resize hc render width height
  | delta text => exact agrees_addDelta hc text
  | done error result =>
      rw [handle]
      split
      · exact agrees_finish hc render error _
      · exact hc
  | quit => exact hc

/-! ## Runs -/

theorem agrees_perform {c : Conversation} (hc : c.Agrees) (render : Renderer)
    (operation : Operation) : (c.perform render operation).Agrees := by
  cases operation with
  | handle event => exact agrees_handle hc render event
  | edit text => exact agrees_edit hc text
  | submit => exact agrees_submit hc
  | startTurn content => exact agrees_startTurn hc content
  | addDelta text => exact agrees_addDelta hc text
  | finish error finishReason => exact agrees_finish hc render error finishReason
  | clear => exact agrees_clear c
  | resize width height => exact agrees_resize hc render width height
  | snapshot => exact hc
  | setInput text => exact hc.of_same rfl rfl

theorem agrees_performAll {c : Conversation} (hc : c.Agrees) (render : Renderer)
    (operations : List Operation) : (c.performAll render operations).Agrees := by
  induction operations generalizing c with
  | nil => exact hc
  | cons operation rest ih => exact ih (agrees_perform hc render operation)

/-- After any operations on a fresh conversation the history is the list of what the
entries say, but for those that report errors. -/
theorem history_performAll_start (render : Renderer) (model sessionKey endpoint : String)
    (width height : Int) (operations : List Operation) :
    let c := (start model sessionKey endpoint width height).performAll render operations
    c.history = c.entries.filterMap Entry.message? := by
  intro c
  have hstart : (start model sessionKey endpoint width height).Agrees := rfl
  exact agrees_performAll hstart render operations

/-- A turn that fails after a part of its reply, then a reply that is ended twice. -/
example :
    let c := (start "m" "k" "e" 80 24).performAll (fun text _ => text)
      [.startTurn "hi", .addDelta "par", .finish (some (.deadline "late")) none,
        .addDelta "lost", .finish none none]
    c.history = [⟨.user, "hi"⟩, ⟨.assistant, "par"⟩, ⟨.assistant, ""⟩] ∧
      c.entries.length = 4 := by
  decide +kernel

end Conversation

end Parley
