import Mathlib.Data.List.Chain
import Parley.Proofs.Conversation.History

/-!
# Rounds of a conversation

A history consists of rounds: a question, and the reply to it if one was kept.  What a
conversation holds besides depends on whether a turn is going on.  Between two turns no
part of a reply is left over, and the last error is the one that is shown last.  In a
turn the input is empty, no error is left over, and the last message is a question.

Neither half holds alone.  That the replies alternate with the questions needs that a
turn ends at a question, and that the last error is the last entry needs that the
beginning of a turn and the emptying of a conversation forget it.
-/

namespace Parley

/-- A question and the reply to it, if one was kept. -/
structure Round where
  question : String
  reply : Option String
  deriving Repr, DecidableEq

def Round.messages (round : Round) : List Message :=
  ⟨.user, round.question⟩ :: round.reply.toList.map fun reply => ⟨.assistant, reply⟩

theorem Failure.described_ne_empty {failure : Failure} (hname : failure.name ≠ "") :
    failure.described ≠ "" := by
  rw [described]
  split
  · exact hname
  · rename_i htext
    simpa using htext

namespace Conversation

/-! ## Histories -/

/-- A history of rounds whose questions may be sent. -/
def InRounds (history : List Message) : Prop :=
  ∃ rounds : List Round, (∀ round ∈ rounds, IsQuestion round.question) ∧
    history = rounds.flatMap Round.messages

/-- Whether two messages may follow each other. -/
def Alternates (first second : Message) : Prop :=
  ¬ (first.role = .assistant ∧ second.role = .assistant)

theorem inRounds_nil : InRounds [] :=
  ⟨[], by simp, rfl⟩

theorem InRounds.append {history : List Message} (h : InRounds history) (round : Round)
    (hround : IsQuestion round.question) : InRounds (history ++ round.messages) := by
  obtain ⟨rounds, hrounds, rfl⟩ := h
  refine ⟨rounds ++ [round], ?_, ?_⟩
  · intro other hother
    obtain hold | hnew := List.mem_append.mp hother
    · exact hrounds other hold
    · rw [List.mem_singleton.mp hnew]
      exact hround
  · rw [List.flatMap_append, List.flatMap_singleton]

theorem role_of_head? {rounds : List Round} {message : Message}
    (hhead : (rounds.flatMap Round.messages).head? = some message) :
    message.role = .user := by
  cases rounds with
  | nil => exact absurd hhead (Option.some_ne_none message).symm
  | cons round rest =>
      rw [← Option.some.inj hhead]

theorem isChain_messages (round : Round) : round.messages.IsChain Alternates := by
  rcases round with ⟨question, reply⟩
  cases reply with
  | none => exact List.isChain_singleton _
  | some reply => simp [Round.messages, Alternates]

theorem isChain_rounds (rounds : List Round) :
    (rounds.flatMap Round.messages).IsChain Alternates := by
  induction rounds with
  | nil => exact List.isChain_nil
  | cons round rest ih =>
      rw [List.flatMap_cons, List.isChain_append]
      refine ⟨isChain_messages round, ih, ?_⟩
      -- the next round begins with a question
      intro first _ second hsecond hboth
      rw [role_of_head? hsecond] at hboth
      exact Role.noConfusion hboth.2

theorem isQuestion_of_mem {rounds : List Round}
    (hrounds : ∀ round ∈ rounds, IsQuestion round.question) {message : Message}
    (hmem : message ∈ rounds.flatMap Round.messages) (hrole : message.role = .user) :
    IsQuestion message.content := by
  obtain ⟨round, hround, hmessage⟩ := List.mem_flatMap.mp hmem
  rw [Round.messages, List.mem_cons, List.mem_map] at hmessage
  obtain rfl | ⟨reply, -, rfl⟩ := hmessage
  · exact hrounds round hround
  · exact Role.noConfusion hrole

/-! ## Between turns and in a turn -/

/-- The text of the last entry, if it reports an error. -/
def lastReport? (c : Conversation) : Option String :=
  (c.entries.getLast?.filter fun entry => entry.speaker = .error).map Entry.raw

/-- What holds between two turns. -/
structure Settled (c : Conversation) : Prop where
  idle : c.streaming = false
  reply : c.reply = ""
  history : InRounds c.history
  lastError : c.lastError = c.lastReport?

/-- What holds in a turn. -/
structure Asking (c : Conversation) : Prop where
  streaming : c.streaming = true
  input : c.input = ""
  lastError : c.lastError = none
  finishReason : c.finishReason = none
  history : ∃ past question, InRounds past ∧ IsQuestion question ∧
    c.history = past ++ [⟨.user, question⟩]

def Sound (c : Conversation) : Prop :=
  c.Settled ∨ c.Asking

theorem settled_start (model sessionKey endpoint : String) (width height : Int) :
    (start model sessionKey endpoint width height).Settled :=
  ⟨rfl, rfl, inRounds_nil, rfl⟩

section Operations

variable {c : Conversation}

theorem Settled.edit (h : c.Settled) (text : String) : (c.edit text).Settled := by
  rw [Conversation.edit, if_neg (by simp [h.idle])]
  exact ⟨h.idle, h.reply, h.history, h.lastError⟩

theorem Settled.startTurn (h : c.Settled) {question : String}
    (hquestion : IsQuestion question) : (c.startTurn question).Asking :=
  ⟨rfl, rfl, rfl, rfl, c.history, question, h.history, hquestion, rfl⟩

theorem Settled.clear (h : c.Settled) : c.clear.Settled :=
  ⟨h.idle, h.reply, inRounds_nil, rfl⟩

theorem Settled.submit (h : c.Settled) : c.submit.1.Sound := by
  obtain hnone | hquit | ⟨-, hclear⟩ | ⟨-, hasks, hstart⟩ := submit_cases c
  · rw [hnone]
    exact Or.inl h
  · rw [hquit]
    exact Or.inl h
  · rw [hclear]
    exact Or.inl h.clear
  · rw [hstart]
    exact Or.inr (h.startTurn (isQuestion_of_asks hasks))

theorem lastReport?_map_redraw (render : Renderer) (width : Int) (entries : List Entry) :
    ((entries.map (redraw render width)).getLast?.filter
        fun entry => entry.speaker = .error).map Entry.raw =
      (entries.getLast?.filter fun entry => entry.speaker = .error).map Entry.raw := by
  rw [List.getLast?_map]
  cases entries.getLast? with
  | none => rfl
  | some entry =>
      rcases entry with ⟨speaker, raw, drawn⟩
      cases speaker with
      | user => rfl
      | assistant => rfl
      | error => rfl

theorem lastReport?_resize (render : Renderer) (c : Conversation) (width height : Int) :
    (c.resize render width height).lastReport? = c.lastReport? := by
  rw [resize]
  split
  · rfl
  · exact lastReport?_map_redraw render _ c.entries

theorem lastError_resize (render : Renderer) (c : Conversation) (width height : Int) :
    (c.resize render width height).lastError = c.lastError := by
  rw [resize]
  split
  · rfl
  · rfl

theorem Settled.resize (h : c.Settled) (render : Renderer) (width height : Int) :
    (c.resize render width height).Settled := by
  have hsame := sameTurn_resize render c width height
  refine ⟨hsame.streaming.trans h.idle, hsame.reply.trans h.reply, ?_, ?_⟩
  · rw [hsame.history]
    exact h.history
  · rw [lastError_resize, lastReport?_resize]
    exact h.lastError

theorem Asking.resize (h : c.Asking) (render : Renderer) (width height : Int) :
    (c.resize render width height).Asking := by
  rw [Conversation.resize]
  split
  · exact ⟨h.streaming, h.input, h.lastError, h.finishReason, h.history⟩
  · exact ⟨h.streaming, h.input, h.lastError, h.finishReason, h.history⟩

theorem Asking.addDelta (h : c.Asking) (text : String) : (c.addDelta text).Asking := by
  rw [Conversation.addDelta, if_pos h.streaming]
  exact ⟨h.streaming, h.input, h.lastError, h.finishReason, h.history⟩

/-- An entry that is added last decides what was reported last. -/
theorem lastReport?_append {c : Conversation} {before : List Entry} {entry : Entry}
    (hentries : c.entries = before ++ [entry]) :
    c.lastReport? = if entry.speaker = .error then some entry.raw else none := by
  rw [lastReport?, hentries, List.getLast?_concat]
  by_cases hspeaker : entry.speaker = .error
  · rw [Option.filter_some, if_pos (by simpa using hspeaker), if_pos hspeaker]
    rfl
  · rw [Option.filter_some, if_neg (by simpa using hspeaker), if_neg hspeaker]
    rfl

theorem lastError_finish (h : c.Asking) (render : Renderer) (error : Option Failure)
    (finishReason : Option String) :
    (c.finish render error finishReason).lastError =
      (c.finish render error finishReason).lastReport? := by
  cases error with
  | none =>
      have hentries : (c.finish render none finishReason).entries =
          c.entries ++ [⟨.assistant, c.reply, some (render c.reply c.contentWidth)⟩] := rfl
      rw [lastReport?_append hentries]
      exact h.lastError
  | some error =>
      let kept := if !c.reply.isEmpty then c.commit render else c
      have hentries : (c.finish render (some error) finishReason).entries =
          kept.entries ++ [⟨.error, error.described, none⟩] := rfl
      rw [lastReport?_append hentries]
      rfl

theorem Asking.finish (h : c.Asking) (render : Renderer) (error : Option Failure)
    (finishReason : Option String) : (c.finish render error finishReason).Settled := by
  refine ⟨rfl, rfl, ?_, lastError_finish h render error finishReason⟩
  obtain ⟨past, question, hpast, hquestion, hhistory⟩ := h.history
  rw [history_finish, hhistory, List.append_assoc]
  split
  · exact hpast.append ⟨question, some c.reply⟩ hquestion
  · exact hpast.append ⟨question, none⟩ hquestion

end Operations

/-! ## Events and runs -/

theorem Settled.handle {c : Conversation} (h : c.Settled) (render : Renderer)
    (event : Event) : (c.handle render event).1.Sound := by
  cases event with
  | edit text => exact Or.inl (h.edit text)
  | submit => exact h.submit
  | resize width height => exact Or.inl (h.resize render width height)
  | delta text =>
      rw [Conversation.handle, Conversation.addDelta, if_neg (by simp [h.idle])]
      exact Or.inl h
  | done error result =>
      rw [Conversation.handle, if_neg (by simp [h.idle])]
      exact Or.inl h
  | quit => exact Or.inl h

theorem Asking.handle {c : Conversation} (h : c.Asking) (render : Renderer)
    (event : Event) : (c.handle render event).1.Sound := by
  cases event with
  | edit text =>
      rw [Conversation.handle, Conversation.edit, if_pos h.streaming]
      exact Or.inr h
  | submit =>
      rw [Conversation.handle, submit_of_streaming h.streaming]
      exact Or.inr h
  | resize width height => exact Or.inr (h.resize render width height)
  | delta text => exact Or.inr (h.addDelta text)
  | done error result =>
      rw [Conversation.handle, if_pos h.streaming]
      exact Or.inl (h.finish render error _)
  | quit => exact Or.inr h

theorem Sound.handle {c : Conversation} (h : c.Sound) (render : Renderer) (event : Event) :
    (c.handle render event).1.Sound := by
  obtain hsettled | hasking := h
  · exact hsettled.handle render event
  · exact hasking.handle render event

theorem Sound.handleAll {c : Conversation} (h : c.Sound) (render : Renderer)
    (events : List Event) : (c.handleAll render events).1.Sound := by
  induction events generalizing c with
  | nil => exact h
  | cons event rest ih => exact ih (h.handle render event)

/-- An error is left by nothing but a closing event that brings it. -/
theorem lastError_handle {c : Conversation} {render : Renderer} {event : Event}
    {text : String} (htext : (c.handle render event).1.lastError = some text) :
    c.lastError = some text ∨
      ∃ error result, event = .done (some error) result ∧ text = error.described := by
  cases event with
  | edit edited =>
      rw [handle, edit] at htext
      split at htext
      · exact Or.inl htext
      · exact Or.inl htext
  | submit =>
      have hhandle : c.handle render .submit = c.submit := rfl
      rw [hhandle] at htext
      obtain hnone | hquit | ⟨-, hclear⟩ | ⟨-, -, hstart⟩ := submit_cases c
      · rw [hnone] at htext
        exact Or.inl htext
      · rw [hquit] at htext
        exact Or.inl htext
      · rw [hclear] at htext
        exact absurd htext.symm (Option.some_ne_none text)
      · rw [hstart] at htext
        exact absurd htext.symm (Option.some_ne_none text)
  | resize width height =>
      rw [handle, lastError_resize] at htext
      exact Or.inl htext
  | delta piece =>
      rw [handle, addDelta] at htext
      split at htext
      · exact Or.inl htext
      · exact Or.inl htext
  | done error result =>
      rw [handle] at htext
      split at htext
      · cases error with
        | none => exact Or.inl htext
        | some error =>
            have hreport : some error.described = some text := htext
            exact Or.inr ⟨error, result, rfl, (Option.some.inj hreport).symm⟩
      · exact Or.inl htext
  | quit => exact Or.inl htext

theorem lastError_handleAll {c : Conversation} {render : Renderer} {events : List Event}
    {text : String} (htext : (c.handleAll render events).1.lastError = some text) :
    c.lastError = some text ∨
      ∃ error result, .done (some error) result ∈ events ∧ text = error.described := by
  induction events generalizing c with
  | nil => exact Or.inl htext
  | cons event rest ih =>
      obtain hfirst | ⟨error, result, hmem, herror⟩ := ih htext
      · obtain hbefore | ⟨error, result, rfl, herror⟩ := lastError_handle hfirst
        · exact Or.inl hbefore
        · exact Or.inr ⟨error, result, List.mem_cons_self, herror⟩
      · exact Or.inr ⟨error, result, List.mem_cons_of_mem event hmem, herror⟩

theorem lastReport?_eq_some_iff (c : Conversation) (text : String) :
    c.lastReport? = some text ↔
      ∃ entry, c.entries.getLast? = some entry ∧ entry.speaker = .error ∧
        entry.raw = text := by
  simp [lastReport?, Option.filter_eq_some_iff, and_assoc]

/-- What holds of a conversation whatever was done to it.  The last error is the text of
the last entry, if that one reports an error and no turn is going on; it is not empty if
the errors that closed turns have names. -/
theorem sound_handleAll_start (render : Renderer) (model sessionKey endpoint : String)
    (width height : Int) (events : List Event) :
    let c := ((start model sessionKey endpoint width height).handleAll render events).1
    (c.streaming = false → c.reply = "") ∧
    (c.streaming = true →
      c.input = "" ∧ c.lastError = none ∧ c.finishReason = none ∧
        ∃ past question, c.history = past ++ [⟨.user, question⟩]) ∧
    (∃ rounds : List Round, c.history = rounds.flatMap Round.messages) ∧
    (∀ message, c.history.head? = some message → message.role = .user) ∧
    c.history.IsChain Alternates ∧
    (∀ message ∈ c.history, message.role = .user → IsQuestion message.content) ∧
    (∀ text, c.lastError = some text ↔
      c.streaming = false ∧
        ∃ entry, c.entries.getLast? = some entry ∧ entry.speaker = .error ∧
          entry.raw = text) ∧
    ((∀ error result, .done (some error) result ∈ events → error.name ≠ "") →
      c.lastError ≠ some "") := by
  intro c
  have hsound : c.Sound :=
    Sound.handleAll (Or.inl (settled_start model sessionKey endpoint width height)) render
      events
  have hrounds : InRounds c.history := by
    obtain hsettled | hasking := hsound
    · exact hsettled.history
    · obtain ⟨past, question, hpast, hquestion, hhistory⟩ := hasking.history
      rw [hhistory]
      exact hpast.append ⟨question, none⟩ hquestion
  obtain ⟨rounds, hquestions, hhistory⟩ := hrounds
  refine ⟨?_, ?_, ⟨rounds, hhistory⟩, ?_, ?_, ?_, ?_, ?_⟩
  · intro hidle
    obtain hsettled | hasking := hsound
    · exact hsettled.reply
    · exact absurd hasking.streaming (by simp [hidle])
  · intro hstreaming
    obtain hsettled | hasking := hsound
    · exact absurd hstreaming (by simp [hsettled.idle])
    · obtain ⟨past, question, -, -, hlast⟩ := hasking.history
      exact ⟨hasking.input, hasking.lastError, hasking.finishReason, past, question, hlast⟩
  · intro message hhead
    rw [hhistory] at hhead
    exact role_of_head? hhead
  · rw [hhistory]
    exact isChain_rounds rounds
  · intro message hmem hrole
    rw [hhistory] at hmem
    exact isQuestion_of_mem hquestions hmem hrole
  · intro text
    obtain hsettled | hasking := hsound
    · rw [hsettled.lastError, lastReport?_eq_some_iff]
      exact ⟨fun hlast => ⟨hsettled.idle, hlast⟩, fun hboth => hboth.2⟩
    · rw [hasking.lastError]
      constructor
      · intro hnone
        exact absurd hnone.symm (Option.some_ne_none text)
      · intro hboth
        exact absurd hasking.streaming (by simp [hboth.1])
  · intro hnamed htext
    obtain hbefore | ⟨error, result, hmem, herror⟩ := lastError_handleAll htext
    · exact absurd hbefore.symm (Option.some_ne_none "")
    · exact Failure.described_ne_empty (hnamed error result hmem) herror.symm

/-- A turn that fails after a part of its reply, with a command inside it. -/
def failedTurn : List Event :=
  [.edit " hi ", .submit, .delta "par", .edit "/clear", .submit, .delta "t",
    .done (some (.deadline "late")) none, .edit "again"]

theorem sound_handleAll_start_failedTurn :
    let c := ((start "m" "k" "e" 80 24).handleAll (fun text _ => text) failedTurn).1
    (c.streaming = false ∧ c.reply = "") ∧
    (⟨.user, "hi"⟩ ∈ c.history ∧ IsQuestion "hi") ∧
    ((∀ error result, .done (some error) result ∈ failedTurn → error.name ≠ "") ∧
      c.lastError ≠ some "") ∧
    c.lastError = some "late" := by
  intro c
  obtain ⟨hreply, -, -, -, -, hquestion, hlast, hnamed⟩ :=
    sound_handleAll_start (fun text _ => text) "m" "k" "e" 80 24 failedTurn
  have hidle : c.streaming = false := by decide +kernel
  have hmem : ⟨.user, "hi"⟩ ∈ c.history := by decide +kernel
  have hnames : ∀ error result, .done (some error) result ∈ failedTurn →
      error.name ≠ "" := by
    intro error result hdone
    simp only [failedTurn, List.mem_cons, reduceCtorEq, Event.done.injEq, Option.some.injEq,
      List.not_mem_nil, false_or, or_false] at hdone
    rw [hdone.1]
    decide
  refine ⟨⟨hidle, hreply hidle⟩, ⟨hmem, hquestion _ hmem rfl⟩, ⟨hnames, hnamed hnames⟩, ?_⟩
  exact (hlast "late").mpr ⟨hidle, ⟨.error, "late", none⟩, by decide +kernel, rfl, rfl⟩

end Conversation

end Parley
