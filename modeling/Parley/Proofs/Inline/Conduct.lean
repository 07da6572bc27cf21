import Parley.Inline.Chat
import Parley.Proofs.Screen.Coupling

/-!
# Turns of the inline mode

A client conducts a turn: it passes signals on and ends with a result or a failure.  Whatever
it does, the inline mode takes in the pieces of the reply in their order and then one
closing event, and with that event it is through with the turn.
-/

namespace Parley

namespace Turn

variable {relay : Relay} (hrelay : relay.finished = false)
include hrelay

theorem filterMap_event?_deliver (traced : Bool) (signal : Signal) :
    (deliver relay traced signal).filterMap Delivery.event? =
      signal.delta?.toList.map Event.delta := by
  cases signal with
  | trace trace =>
      cases traced with
      | true => rfl
      | false => rfl
  | delta text =>
      rw [deliver, Relay.delta, hrelay]
      rfl

theorem filterMap_event?_flatMap_deliver (traced : Bool) (signals : List Signal) :
    (signals.flatMap (deliver relay traced)).filterMap Delivery.event? =
      (signals.filterMap Signal.delta?).map Event.delta := by
  induction signals with
  | nil => rfl
  | cons signal rest ih =>
      rw [List.flatMap_cons, List.filterMap_append, ih, filterMap_event?_deliver hrelay]
      cases signal with
      | trace trace => rfl
      | delta text => rfl

end Turn

namespace Inline

open Screen (Ending)

/-! ## Clients -/

/-- What a client does for a turn, unless it asks the program to stop. -/
structure Conduct where
  request : Option SentRequest
  signals : List Signal
  ending : Ending

namespace Conduct

def run (conduct : Conduct) : StreamRun :=
  ⟨conduct.signals, conduct.request, conduct.ending.outcome⟩

def text (conduct : Conduct) : String :=
  String.join conduct.run.deltas

/-- What a turn commits of its reply. -/
def reply (conduct : Conduct) : List Message :=
  if conduct.ending.failure?.isNone || !conduct.text.isEmpty then
    [⟨.assistant, conduct.text⟩]
  else []

def closing (conduct : Conduct) : Event :=
  .done conduct.ending.failure? conduct.ending.result?

/-- The events that the inline mode takes in. -/
def events (conduct : Conduct) : List Event :=
  conduct.run.deltas.map .delta ++ [conduct.closing]

def deliveries (traced : Bool) (conduct : Conduct) : List Delivery :=
  let relay := Relay.start traced false
  conduct.signals.flatMap (Turn.deliver relay traced) ++
    (Turn.close relay conduct.ending.outcome).1

theorem filterMap_event?_deliveries (traced : Bool) (conduct : Conduct) :
    (conduct.deliveries traced).filterMap Delivery.event? = conduct.events := by
  rw [deliveries, List.filterMap_append, Screen.filterMap_event?_close rfl]
  exact congrArg (· ++ _) (Turn.filterMap_event?_flatMap_deliver rfl traced conduct.signals)

end Conduct

/-- The client that conducts every turn as it is told. -/
def Client.ofConduct (traced : Bool) (conduct : Nat → List Message → Conduct) : Client :=
  fun turn messages =>
    ⟨(conduct turn messages).request, (conduct turn messages).deliveries traced, none⟩

/-! ## The client of an endpoint -/

theorem Conduct.deliveries_of_run (traced : Bool) {conduct : Conduct} {signals : List Signal}
    {request : Option SentRequest} {outcome : Except Failure StreamResult}
    (hrun : conduct.run = ⟨signals, request, outcome⟩) :
    let relay := Relay.start traced false
    conduct.request = request ∧
      conduct.deliveries traced =
        signals.flatMap (Turn.deliver relay traced) ++ (Turn.close relay outcome).1 := by
  injection hrun with hsignals hrequest houtcome
  refine ⟨hrequest, ?_⟩
  rw [deliveries, hsignals, houtcome]

theorem Conduct.stop?_of_run {conduct : Conduct} {signals : List Signal}
    {request : Option SentRequest} {outcome : Except Failure StreamResult}
    (hrun : conduct.run = ⟨signals, request, outcome⟩) (relay : Relay) (traced : Bool) :
    Turn.stop? ⟨relay, traced, .ended outcome⟩ = none := by
  injection hrun with hsignals hrequest houtcome
  rw [← houtcome]
  cases conduct.ending with
  | replied result => rfl
  | failed cause going =>
      rw [Turn.stop?]
      exact if_neg (Bool.eq_false_iff.mp going)

/-- The client of an endpoint conducts every turn as the exchange with the server goes,
unless an exchange ends with a request to stop. -/
theorem ofAnswers_eq_ofConduct [Wire.Platform] (config : Config) (traced : Bool)
    (answerAt : Nat → Answer) {conduct : Nat → List Message → Conduct}
    (hconduct : ∀ turn messages,
      (conduct turn messages).run = StreamRun.run config messages (answerAt turn)) :
    Client.ofAnswers config traced .deadline answerAt = Client.ofConduct traced conduct := by
  funext turn messages
  have hrun := hconduct turn messages
  rw [Client.ofAnswers, Client.ofConduct, Turn.start, Turn.opening]
  generalize conduct turn messages = told at hrun ⊢
  rw [StreamRun.run] at hrun
  cases hrequest : (Exchange.start config messages true).request with
  | error failure =>
      rw [hrequest] at hrun
      obtain ⟨hsent, hdeliveries⟩ := Conduct.deliveries_of_run traced hrun
      simp only [Turn.proceed]
      rw [Conduct.stop?_of_run hrun, hsent, hdeliveries]
      rfl
  | ok request =>
      rw [hrequest] at hrun
      generalize StreamState.ofAnswer config (answerAt turn) = answered at hrun ⊢
      obtain ⟨signals, state⟩ := answered
      cases state with
      | ended outcome =>
          obtain ⟨hsent, hdeliveries⟩ := Conduct.deliveries_of_run traced hrun
          simp only [Turn.proceed]
          rw [Conduct.stop?_of_run hrun, hsent, hdeliveries]
          rfl
      -- the server is silent, so the time runs out
      | reading reader rest =>
          obtain ⟨hsent, hdeliveries⟩ := Conduct.deliveries_of_run traced hrun
          rw [hsent, hdeliveries, List.flatMap_append, List.append_assoc]
          rfl
      | refused status data rest =>
          obtain ⟨hsent, hdeliveries⟩ := Conduct.deliveries_of_run traced hrun
          rw [hsent, hdeliveries, List.flatMap_append, List.append_assoc]
          rfl

/-! ## What a chat makes of events -/

namespace Chat

variable (render : Renderer)

/-- Takes one event of a turn in. -/
def hear (chat : Chat) (event : Event) : String × Chat :=
  let conversation := (chat.conversation.handle render event).1
  let (written, printer) := match event with
    | .delta text => chat.printer.delta text
    | .done .. =>
        chat.printer.finish (conversation.entries.drop chat.conversation.entries.length)
          conversation.finishReason
    | _ => ("", chat.printer)
  (written, { chat with conversation, printer })

def hearAll (chat : Chat) : List Event → String × Chat
  | [] => ("", chat)
  | event :: rest =>
      let heard := chat.hear render event
      let others := hearAll heard.2 rest
      (heard.1 ++ others.1, others.2)

theorem play_open (chat : Chat) {event : Event} (hopen : Screen.isClosing event = false)
    (rest : List Event) :
    chat.play render (event :: rest) =
      ((chat.hear render event).1 ++ ((chat.hear render event).2.play render rest).1,
        ((chat.hear render event).2.play render rest).2) := by
  cases event with
  | delta text => rfl
  | done error result => exact Bool.noConfusion hopen
  | _ => exact Prod.ext String.empty_append.symm rfl

theorem play_closing (chat : Chat) {event : Event} (hclosing : Screen.isClosing event = true)
    (rest : List Event) :
    chat.play render (event :: rest) =
      ((chat.hear render event).1, (chat.hear render event).2, .reading) := by
  cases event with
  | done error result => rfl
  | _ => exact Bool.noConfusion hclosing

/-- A chat plays events by taking them in one by one, until one of them closes the turn. -/
theorem play_append (chat : Chat) {before : List Event} {event : Event}
    (hopen : ∀ event ∈ before, Screen.isClosing event = false)
    (hclosing : Screen.isClosing event = true) (after : List Event) :
    chat.play render (before ++ event :: after) =
      ((chat.hearAll render (before ++ [event])).1,
        (chat.hearAll render (before ++ [event])).2, .reading) := by
  induction before generalizing chat with
  | nil =>
      rw [List.nil_append, play_closing render chat hclosing]
      exact Prod.ext String.append_empty.symm rfl
  | cons first before ih =>
      rw [List.cons_append, play_open render chat (hopen first List.mem_cons_self)]
      rw [ih _ fun other hother => hopen other (List.mem_cons_of_mem _ hother)]
      rfl

theorem hearAll_append (chat : Chat) (before after : List Event) :
    chat.hearAll render (before ++ after) =
      ((chat.hearAll render before).1 ++ ((chat.hearAll render before).2.hearAll render after).1,
        ((chat.hearAll render before).2.hearAll render after).2) := by
  induction before generalizing chat with
  | nil => exact Prod.ext String.empty_append.symm rfl
  | cons event before ih =>
      rw [List.cons_append, hearAll, ih]
      exact Prod.ext String.append_assoc.symm rfl

/-! ## The pieces of a reply -/

/-- A chat in which more pieces of the reply have arrived. -/
def arrived (chat : Chat) (pieces : List String) : Chat :=
  { chat with
    conversation :=
      { chat.conversation with reply := chat.conversation.reply ++ String.join pieces }
    printer :=
      { chat.printer with
        raw := chat.printer.raw ++ String.join pieces
        thinking := chat.printer.thinking && pieces.isEmpty } }

theorem arrived_nil (chat : Chat) : chat.arrived [] = chat := by
  rw [arrived, String.join_nil, String.append_empty, String.append_empty, List.isEmpty_nil,
    Bool.and_true]

theorem delta_eq (p : Printer) (text : String) :
    p.delta text =
      ((if p.thinking then Printer.clearLine else "") ++ text,
        { p with raw := p.raw ++ text, thinking := false }) := by
  rcases p with ⟨console, isTerminal, raw, thinking⟩
  cases thinking with
  | true => rfl
  | false => rfl

/-- The mark that there is no reply yet is cleared with the first piece. -/
def mark (chat : Chat) (pieces : List String) : String :=
  if chat.printer.thinking && !pieces.isEmpty then Printer.clearLine else ""

theorem arrived_arrived (chat : Chat) (text : String) (pieces : List String) :
    (chat.arrived [text]).arrived pieces = chat.arrived (text :: pieces) := by
  simp [arrived, String.append_assoc]

theorem hear_delta {chat : Chat} (hstreaming : chat.conversation.streaming = true)
    (text : String) :
    chat.hear render (.delta text) = (chat.mark [text] ++ text, chat.arrived [text]) := by
  have hadd : chat.conversation.addDelta text =
      { chat.conversation with reply := chat.conversation.reply ++ text } := by
    rw [Conversation.addDelta, if_pos hstreaming]
  have hjoin : String.join [text] = text := String.empty_append
  rw [hear, Conversation.handle, hadd, delta_eq, arrived, mark, hjoin, List.isEmpty_cons,
    Bool.not_false, Bool.and_true, Bool.and_false]

theorem hearAll_deltas {chat : Chat} (hstreaming : chat.conversation.streaming = true)
    (pieces : List String) :
    chat.hearAll render (pieces.map .delta) =
      (chat.mark pieces ++ String.join pieces, chat.arrived pieces) := by
  induction pieces generalizing chat with
  | nil =>
      rw [arrived_nil, mark, List.isEmpty_nil, Bool.not_true, Bool.and_false]
      rfl
  | cons text pieces ih =>
      have hmark : (chat.arrived [text]).mark pieces = "" := by
        rw [mark, arrived, List.isEmpty_cons, Bool.and_false, Bool.false_and]
        rfl
      rw [List.map_cons, hearAll, hear_delta render hstreaming,
        @ih (chat.arrived [text]) hstreaming, hmark, arrived_arrived,
        String.empty_append, String.append_assoc, String.join_cons]
      rfl

/-! ## A whole turn -/

/-- The chat in which the events of a turn arrive. -/
def opened (chat : Chat) : Chat :=
  { chat with printer := chat.printer.startReply.2, turns := chat.turns + 1 }

/-- What is shown before the events of a turn. -/
def heading (chat : Chat) : String :=
  String.join (chat.conversation.entries.getLast?.toList.map chat.printer.entry) ++
    chat.printer.startReply.1

theorem play_opened (chat : Chat) (traced : Bool) (told : Conduct) :
    chat.play render ((told.deliveries traced).filterMap Delivery.event?) =
      ((chat.hearAll render told.events).1, (chat.hearAll render told.events).2, .reading) := by
  rw [Conduct.filterMap_event?_deliveries]
  refine play_append render chat ?_ rfl []
  intro event hevent
  obtain ⟨text, -, hdelta⟩ := List.mem_map.mp hevent
  rw [← hdelta]
  rfl

/-- A turn asks the client once, and it is over when the next line is read. -/
theorem turn_ofConduct (chat : Chat) (traced : Bool)
    (conduct : Nat → List Message → Conduct) :
    let messages := chat.conversation.history
    let heard := chat.opened.hearAll render (conduct chat.turns messages).events
    chat.turn render (.ofConduct traced conduct) =
      ⟨chat.heading ++ heard.1,
        some (messages, Client.ofConduct traced conduct chat.turns messages), heard.2,
        .reading⟩ := by
  intro messages heard
  have hplay := play_opened render chat.opened traced (conduct chat.turns messages)
  let client := Client.ofConduct traced conduct
  let played := chat.opened.play render
    ((client chat.turns messages).deliveries.filterMap Delivery.event?)
  have hturn : chat.turn render client =
      ⟨chat.heading ++ played.1, some (messages, client chat.turns messages), played.2.1,
        played.2.2⟩ := rfl
  have hplayed : played = (heard.1, heard.2, .reading) := hplay
  rw [hturn, hplayed]

theorem conversation_hearAll_events (chat : Chat)
    (hstreaming : chat.conversation.streaming = true) (told : Conduct) :
    (chat.hearAll render told.events).2.conversation =
      { chat.conversation with reply := chat.conversation.reply ++ told.text }.finish render
        told.ending.failure? (told.ending.result?.bind StreamResult.finishReason) := by
  rw [Conduct.events, hearAll_append, hearAll_deltas render hstreaming]
  show ((chat.arrived told.run.deltas).conversation.handle render told.closing).1 = _
  rw [Conduct.closing, Conversation.handle]
  exact congrArg Prod.fst (if_pos hstreaming)

end Chat

end Inline

end Parley
