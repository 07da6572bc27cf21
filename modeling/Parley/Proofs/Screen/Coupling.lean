import Parley.Proofs.Conversation.History
import Parley.Proofs.Screen.Core

/-!
# The coupling of conversation, worker and queue

In every world that moves lead to, a screen is between two turns, or the worker of the
current turn runs, or it has ended and its closing event is the last in the queue.  So no
piece of a reply is lost, repeated or taken for one of another turn, in whichever order
the moves come.
-/

namespace Parley.Screen

open Conversation (SameTurn)

/-! ## Events of the user -/

/-- Whether an event comes from the user or the terminal, not from a worker. -/
def isFed : Event → Bool
  | .delta _ | .done _ _ => false
  | _ => true

theorem isFed_of_mem_eventsOf {notice : Notice} {event : Event}
    (hevent : event ∈ Input.eventsOf notice) : isFed event = true := by
  cases notice with
  | changed text =>
      rw [List.mem_singleton.mp hevent]
      rfl
  | submitted text =>
      rw [Input.eventsOf, List.mem_cons, List.mem_singleton] at hevent
      obtain hedit | hsubmit := hevent
      · rw [hedit]
        rfl
      · rw [hsubmit]
        rfl

theorem isFed_of_mem_events {s : Screen} {given : Input} {event : Event}
    (hevent : event ∈ given.events s) : isFed event = true := by
  cases given with
  | edit text =>
      rw [List.mem_singleton.mp hevent]
      rfl
  | submit =>
      rw [List.mem_singleton.mp hevent]
      rfl
  | quit =>
      rw [List.mem_singleton.mp hevent]
      rfl
  | resize width height =>
      rw [List.mem_singleton.mp hevent]
      rfl
  | notice =>
      rw [Input.events] at hevent
      cases hnotices : s.notices with
      | nil =>
          rw [hnotices] at hevent
          exact absurd hevent List.not_mem_nil
      | cons notice rest =>
          rw [hnotices] at hevent
          exact isFed_of_mem_eventsOf hevent
  | press key =>
      cases key with
      | clearChat =>
          rw [Input.events] at hevent
          split at hevent
          · exact absurd hevent List.not_mem_nil
          · exact @isFed_of_mem_eventsOf (.submitted Conversation.clearCommand) event hevent
      | _ => exact absurd hevent List.not_mem_nil
  | paste text => exact absurd hevent List.not_mem_nil
  | typeText text => exact absurd hevent List.not_mem_nil
  | tick => exact absurd hevent List.not_mem_nil

/-- All that an event of the user can do to a conversation: leave its turn as it is,
empty it, or begin a turn. -/
theorem handle_cases {event : Event} (hfed : isFed event = true) (render : Renderer)
    (c : Conversation) :
    (∃ next action, c.handle render event = (next, action) ∧ c.SameTurn next ∧
      action ≠ .startTurn ∧ action ≠ .clear) ∨
    (c.streaming = false ∧ c.handle render event = (c.clear, .clear)) ∨
    (c.streaming = false ∧
      c.handle render event = (c.startTurn (Text.stripText c.input), .startTurn)) := by
  cases event with
  | edit text =>
      refine Or.inl ⟨_, _, rfl, Conversation.sameTurn_edit c text, ?_, ?_⟩
      · split
        · exact fun h => Action.noConfusion h
        · exact fun h => Action.noConfusion h
      · split
        · exact fun h => Action.noConfusion h
        · exact fun h => Action.noConfusion h
  | submit =>
      obtain hnone | hquit | hclear | ⟨hidle, -, hstart⟩ := Conversation.submit_cases c
      · exact Or.inl ⟨c, .none, hnone, SameTurn.refl c, by decide, by decide⟩
      · exact Or.inl ⟨c, .quit, hquit, SameTurn.refl c, by decide, by decide⟩
      · exact Or.inr (Or.inl hclear)
      · exact Or.inr (Or.inr ⟨hidle, hstart⟩)
  | resize width height =>
      exact Or.inl ⟨_, .render, rfl, Conversation.sameTurn_resize render c width height,
        by decide, by decide⟩
  | quit => exact Or.inl ⟨c, .quit, rfl, SameTurn.refl c, by decide, by decide⟩
  | delta text => exact absurd hfed (by simp [isFed])
  | done error result => exact absurd hfed (by simp [isFed])

/-- The piece of a reply that an event brings. -/
def piece? : Event → Option String
  | .delta piece => some piece
  | _ => none

/-- Whether an event closes a turn. -/
def isClosing : Event → Bool
  | .done _ _ => true
  | _ => false

/-! ## The invariant -/

/-- The events of a turn in the queue: pieces of the reply, then the closing event if
there is one. -/
def queued (turn : Nat) (pieces : List String) (closing : List Event) : List Posted :=
  (pieces.map Event.delta ++ closing).map (Posted.mk turn)

/-- Where the worker of a turn stands: it runs, or it has ended and left a closing event. -/
inductive Working (turn : Nat) : Option Worker → List Event → Prop
  | runs {worker : Worker} (hturn : worker.turn = turn)
      (hopen : worker.relay.finished = false) : Working turn (some worker) []
  | ended (error : Option Failure) (result : Option StreamResult) :
      Working turn none [.done error result]

/-- A closing event is the last of its turn, and no worker runs when it is queued. -/
theorem Working.of_cons {turn : Nat} {worker : Option Worker} {event : Event}
    {rest : List Event} (h : Working turn worker (event :: rest)) :
    worker = none ∧ rest = [] ∧ ∃ error result, event = .done error result := by
  cases h with
  | ended error result => exact ⟨rfl, rfl, error, result, rfl⟩

theorem Working.of_some {turn : Nat} {worker : Worker} {closing : List Event}
    (h : Working turn (some worker) closing) :
    worker.turn = turn ∧ worker.relay.finished = false ∧ closing = [] := by
  cases h with
  | runs hturn hopen => exact ⟨hturn, hopen, rfl⟩

/-- A turn on its way: what the conversation has of the reply and the pieces in the queue
are what its worker has emitted. -/
structure Underway (c : Core) (current : TurnRecord) (pieces : List String)
    (closing : List Event) : Prop where
  streaming : c.conversation.streaming = true
  turn : current.turn + 1 = c.turns
  unclosed : current.closed = none
  posted : c.posted = queued current.turn pieces closing
  reply : c.conversation.reply ++ String.join pieces = current.text
  working : Working current.turn c.worker closing

/-- Where a screen stands: between two turns, or in the turn of the last record.  All
other turns were closed. -/
inductive Flow (c : Core) : List TurnRecord → Prop
  | idle {records : List TurnRecord} (hstreaming : c.conversation.streaming = false)
      (hworker : c.worker = none) (hposted : c.posted = [])
      (hclosed : ∀ record ∈ records, record.closed ≠ none) : Flow c records
  | underway {past : List TurnRecord} {current : TurnRecord} (pieces : List String)
      (closing : List Event) (hclosed : ∀ record ∈ past, record.closed ≠ none)
      (hturn : Underway c current pieces closing) : Flow c (past ++ [current])

namespace Flow

variable {c : Core} {records : List TurnRecord}

theorem idle_of_not_streaming (h : Flow c records)
    (hidle : c.conversation.streaming = false) :
    c.worker = none ∧ c.posted = [] ∧ ∀ record ∈ records, record.closed ≠ none := by
  cases h with
  | idle hstreaming hworker hposted hclosed => exact ⟨hworker, hposted, hclosed⟩
  | underway pieces closing hclosed hturn =>
      exact absurd (hidle.symm.trans hturn.streaming) Bool.false_ne_true

/-- A worker runs for the last record, and no closing event is queued. -/
theorem underway_of_worker (h : Flow c records) {worker : Worker}
    (hworker : c.worker = some worker) :
    ∃ past current pieces, records = past ++ [current] ∧
      (∀ record ∈ past, record.closed ≠ none) ∧ Underway c current pieces [] ∧
      worker.turn = current.turn ∧ worker.relay.finished = false := by
  cases h with
  | idle hstreaming hnone hposted hclosed =>
      exact absurd (hnone.symm.trans hworker) (Option.some_ne_none worker).symm
  | @underway past current pieces closing hclosed hturn =>
      have hworking := hturn.working
      rw [hworker] at hworking
      obtain ⟨hnumber, hrelay, hclosing⟩ := hworking.of_some
      rw [hclosing] at hturn
      exact ⟨past, current, pieces, rfl, hclosed, hturn, hnumber, hrelay⟩

/-- The oldest event in the queue is a piece of the reply, which is taken in, or the
closing event, at which the reply is what the worker has emitted. -/
theorem oldest (h : Flow c records) {turn : Nat} {event : Event} {rest : List Posted}
    (holdest : c.posted = ⟨turn, event⟩ :: rest) :
    c.conversation.streaming = true ∧
    ((∃ piece, event = .delta piece ∧
      Flow { c with
          conversation := { c.conversation with reply := c.conversation.reply ++ piece }
          posted := rest } records) ∨
    ∃ error result past current, event = .done error result ∧ rest = [] ∧
      c.worker = none ∧ records = past ++ [current] ∧ current.turn = turn ∧
      (∀ record ∈ past, record.closed ≠ none) ∧ current.closed = none ∧
      c.conversation.reply = current.text) := by
  cases h with
  | idle hstreaming hworker hposted hclosed =>
      exact absurd (hposted.symm.trans holdest) (List.cons_ne_nil _ _).symm
  | @underway past current pieces closing hclosed hturn =>
      obtain ⟨hstreaming, hnumber, hunclosed, hposted, hreply, hworking⟩ := hturn
      refine ⟨hstreaming, ?_⟩
      have hqueue := hposted.symm.trans holdest
      -- the queue starts with the pieces, so the closing event is the oldest only after them
      cases pieces with
      | cons piece pieces =>
          obtain ⟨hfirst, hrest⟩ := List.cons.inj hqueue
          have htext : (c.conversation.reply ++ piece) ++ String.join pieces = current.text := by
            rw [← hreply, String.join_cons, String.append_assoc]
          exact Or.inl ⟨piece, (Posted.mk.inj hfirst).2.symm,
            .underway pieces closing hclosed
              ⟨hstreaming, hnumber, hunclosed, hrest.symm, htext, hworking⟩⟩
      | nil =>
          cases closing with
          | nil => exact absurd hqueue (List.cons_ne_nil _ _).symm
          | cons closing events =>
              obtain ⟨hworker, hlast, error, result, hdone⟩ := hworking.of_cons
              obtain ⟨hfirst, hrest⟩ := List.cons.inj hqueue
              obtain ⟨hcurrent, hevent⟩ := Posted.mk.inj hfirst
              rw [hlast] at hrest
              rw [String.join_nil, String.append_empty] at hreply
              exact Or.inr ⟨error, result, past, current, hevent.symm.trans hdone,
                hrest.symm, hworker, rfl, hcurrent, hclosed, hunclosed, hreply⟩

end Flow

/-- What holds of the core of a screen and the records in every world. -/
structure Coupled (c : Core) (records : List TurnRecord) (running : List Nat) : Prop where
  running : running = c.worker.toList.map Worker.turn
  ordered : (records.map TurnRecord.turn).Pairwise (· < ·)
  begun : ∀ turn ∈ records.map TurnRecord.turn, turn < c.turns
  history : c.conversation.history = records.flatMap TurnRecord.messages
  flow : Flow c records

namespace Coupled

variable {c : Core} {records : List TurnRecord} {running : List Nat}

/-! ## Events of the user -/

/-- What leaves the turn of the conversation as it is leaves everything coupled. -/
theorem of_sameTurn (h : Coupled c records running) {next : Conversation}
    (hsame : c.conversation.SameTurn next) :
    Coupled { c with conversation := next } records running := by
  obtain ⟨hrunning, hordered, hbegun, hhistory, hflow⟩ := h
  refine ⟨hrunning, hordered, hbegun, hsame.history.trans hhistory, ?_⟩
  cases hflow with
  | idle hstreaming hworker hposted hclosed =>
      exact .idle (hsame.streaming.trans hstreaming) hworker hposted hclosed
  | underway pieces closing hclosed hturn =>
      exact .underway pieces closing hclosed
        { hturn with
          streaming := hsame.streaming.trans hturn.streaming
          reply := (congrArg (· ++ _) hsame.reply).trans hturn.reply }

/-- An empty conversation is coupled with no records. -/
theorem clear (h : Coupled c records running) (hidle : c.conversation.streaming = false) :
    Coupled { c with conversation := c.conversation.clear } [] running := by
  obtain ⟨hworker, hposted, -⟩ := h.flow.idle_of_not_streaming hidle
  exact ⟨h.running, .nil, fun turn hturn => absurd hturn List.not_mem_nil, rfl,
    .idle hidle hworker hposted fun record hrecord => absurd hrecord List.not_mem_nil⟩

/-- A turn that begins gets a record and the only worker. -/
theorem startTurn (h : Coupled c records running) (hidle : c.conversation.streaming = false)
    (asked : String) (messages : List Message) :
    Coupled ⟨c.conversation.startTurn asked, some ⟨c.turns, messages, Relay.start true false⟩,
        c.posted ++ postedBy farewell c.worker, c.turns + 1⟩
      (records ++ [⟨c.turns, asked, [], none⟩]) (running ++ [c.turns]) := by
  -- between two turns no worker is left, so the cancellation posts nothing
  obtain ⟨hworker, hposted, hclosed⟩ := h.flow.idle_of_not_streaming hidle
  obtain ⟨hrunning, hordered, hbegun, hhistory, -⟩ := h
  rw [hworker] at hrunning ⊢
  refine ⟨?_, ?_, ?_, ?_, ?_⟩
  · rw [hrunning]
    rfl
  · rw [List.map_append]
    refine List.pairwise_append.mpr ⟨hordered, List.pairwise_singleton _ _, ?_⟩
    intro turn hturn last hlast
    rw [List.mem_singleton.mp hlast]
    exact hbegun turn hturn
  · intro turn hturn
    rw [List.map_append] at hturn
    obtain hpast | hlast := List.mem_append.mp hturn
    · exact Nat.lt_succ_of_lt (hbegun turn hpast)
    · rw [List.mem_singleton.mp hlast]
      exact Nat.lt_succ_self c.turns
  · rw [List.flatMap_append, ← hhistory]
    rfl
  · refine .underway [] [] hclosed ⟨rfl, rfl, rfl, ?_, rfl, .runs rfl rfl⟩
    rw [hposted]
    rfl

/-! ## The worker -/

/-- The worker hands a piece of the reply over. -/
theorem piece {worker : Worker} (h : Coupled c records running)
    (hworker : c.worker = some worker) (piece : String) :
    Coupled { c with posted := c.posted ++ [⟨worker.turn, .delta piece⟩] }
      (records.map (TurnRecord.emit worker.turn piece)) running := by
  obtain ⟨hrunning, hordered, hbegun, hhistory, hflow⟩ := h
  obtain ⟨past, current, pieces, rfl, hclosed, hturn, hnumber, hrelay⟩ :=
    hflow.underway_of_worker hworker
  let written : TurnRecord := { current with emitted := current.emitted ++ [piece] }
  have hrecords : (past ++ [current]).map (TurnRecord.emit worker.turn piece) =
      past ++ [written] := by
    rw [hnumber, TurnRecord.map_emit hordered]
  have hmessages : written.messages = current.messages := by
    rw [TurnRecord.messages_of_open hturn.unclosed]
    exact TurnRecord.messages_of_open hturn.unclosed
  have hturns := TurnRecord.map_turn_last past (show written.turn = current.turn from rfl)
  have htext : written.text = current.text ++ String.join [piece] := String.join_append
  rw [hrecords]
  refine ⟨hrunning, hturns ▸ hordered, hturns ▸ hbegun, ?_, ?_⟩
  · rw [List.flatMap_append, List.flatMap_singleton] at hhistory ⊢
    rw [hmessages]
    exact hhistory
  · refine .underway (pieces ++ [piece]) [] hclosed { hturn with posted := ?_, reply := ?_ }
    · rw [hturn.posted, hnumber, queued, queued]
      simp [written]
    · rw [htext, ← hturn.reply, String.join_append, String.append_assoc]

/-- The worker ends with one closing event. -/
theorem closing {worker : Worker} (h : Coupled c records running)
    (hworker : c.worker = some worker) (error : Option Failure)
    (result : Option StreamResult) :
    Coupled { c with
        worker := none
        posted := c.posted ++ [⟨worker.turn, .done error result⟩] }
      records (running.filter (· ≠ worker.turn)) := by
  obtain ⟨hrunning, hordered, hbegun, hhistory, hflow⟩ := h
  obtain ⟨past, current, pieces, rfl, hclosed, hturn, hnumber, hrelay⟩ :=
    hflow.underway_of_worker hworker
  refine ⟨?_, hordered, hbegun, hhistory, ?_⟩
  · rw [hrunning, hworker]
    simp
  · refine .underway pieces [.done error result] hclosed
      { hturn with posted := ?_, working := .ended error result }
    rw [hturn.posted, hnumber, queued, queued, List.append_nil]
    simp

/-! ## The queue -/

/-- The closing event of a turn commits its reply. -/
theorem finish {past : List TurnRecord} {current : TurnRecord}
    (h : Coupled c (past ++ [current]) running) (hworker : c.worker = none)
    (hpast : ∀ record ∈ past, record.closed ≠ none) (hopen : current.closed = none)
    (hreply : c.conversation.reply = current.text)
    (render : Renderer) (error : Option Failure) (finishReason : Option String) :
    Coupled { c with
        conversation := c.conversation.finish render error finishReason
        posted := [] }
      ((past ++ [current]).map (TurnRecord.close current.turn error)) running := by
  obtain ⟨hrunning, hordered, hbegun, hhistory, -⟩ := h
  let closed : TurnRecord := { current with closed := some error }
  have hrecords : (past ++ [current]).map (TurnRecord.close current.turn error) =
      past ++ [closed] := TurnRecord.map_close hordered error
  have hmessages : closed.messages = current.messages ++
      if error.isNone || !c.conversation.reply.isEmpty then
        [⟨.assistant, c.conversation.reply⟩] else [] := by
    rw [TurnRecord.messages_of_open hopen, hreply]
    rfl
  have hturns := TurnRecord.map_turn_last past (show closed.turn = current.turn from rfl)
  rw [hrecords]
  refine ⟨hrunning, hturns ▸ hordered, hturns ▸ hbegun, ?_, .idle rfl hworker rfl ?_⟩
  · rw [List.flatMap_append, List.flatMap_singleton] at hhistory ⊢
    rw [hmessages, ← List.append_assoc, ← hhistory]
    exact Conversation.history_finish render c.conversation error finishReason
  · intro record hrecord
    obtain hearlier | hlast := List.mem_append.mp hrecord
    · exact hpast record hearlier
    · rw [List.mem_singleton.mp hlast]
      exact Option.some_ne_none error

/-! ## Moves -/

theorem relay_open (h : Coupled c records running) {worker : Worker}
    (hworker : c.worker = some worker) : worker.relay.finished = false := by
  obtain ⟨-, -, -, -, -, -, -, hrelay⟩ := h.flow.underway_of_worker hworker
  exact hrelay

end Coupled

theorem filterMap_event?_traced (traced : Bool) (warning : Trace)
    (deliveries : List Delivery) :
    ((if traced then [Delivery.trace warning] else []) ++ deliveries).filterMap Delivery.event? =
      deliveries.filterMap Delivery.event? := by
  cases traced with
  | true => rfl
  | false => rfl

theorem filterMap_event?_done {relay : Relay} (hrelay : relay.finished = false)
    (error : Option Failure) (result : Option StreamResult) :
    (relay.done error result).1.filterMap Delivery.event? = [.done error result] := by
  rw [Relay.done, hrelay]
  rfl

/-- However an exchange ends, one closing event tells so. -/
theorem filterMap_event?_close {relay : Relay} (hrelay : relay.finished = false)
    (ending : Ending) :
    (Turn.close relay ending.outcome).1.filterMap Delivery.event? =
      [.done ending.failure? ending.result?] := by
  cases ending with
  | replied result => exact filterMap_event?_done hrelay _ _
  | failed cause going =>
      cases cause with
      | stop request kind text => exact Bool.noConfusion going
      | chat failure => exact filterMap_event?_done hrelay _ _
      | _ => exact (filterMap_event?_traced _ _ _).trans (filterMap_event?_done hrelay _ _)

namespace World

/-- Everything in a world is coupled. -/
def Coupled (w : World) : Prop :=
  Screen.Coupled w.screen.core w.records w.running

theorem coupled_feed {w : World} (h : w.Coupled) (render : Renderer) {event : Event}
    (hfed : isFed event = true) : (w.feed render event).Coupled := by
  rw [Coupled, screen_feed, feed]
  obtain ⟨next, action, hhandle, hsame, hstart, hclear⟩ | ⟨hidle, hhandle⟩ |
    ⟨hidle, hhandle⟩ := handle_cases hfed render w.screen.conversation
  · rw [core_feed hhandle hstart, hhandle]
    have hcoupled := h.of_sameTurn hsame
    cases action with
    | startTurn => exact absurd rfl hstart
    | clear => exact absurd rfl hclear
    | none => exact hcoupled
    | render => exact hcoupled
    | quit => exact hcoupled
  · rw [core_feed hhandle (by decide), hhandle]
    exact h.clear hidle
  · rw [core_feed_startTurn hhandle, hhandle]
    exact h.startTurn hidle _ _

theorem coupled_foldl_feed {w : World} (h : w.Coupled) (render : Renderer)
    {events : List Event} (hfed : ∀ event ∈ events, isFed event = true) :
    (events.foldl (feed render) w).Coupled := by
  induction events generalizing w with
  | nil => exact h
  | cons event rest ih =>
      refine ih (coupled_feed h render (hfed event List.mem_cons_self)) ?_
      exact fun event hevent => hfed event (List.mem_cons_of_mem _ hevent)

theorem coupled_signal {w : World} (h : w.Coupled) (render : Renderer) (passed : Signal) :
    (w.move render (.signal passed)).Coupled := by
  rw [Coupled, screen_move, Move.apply, core_workerSignal]
  show Screen.Coupled _ (w.signalled passed) w.running
  cases hworker : w.screen.worker with
  | none =>
      have hrecords : w.signalled passed = w.records := by
        cases passed with
        | trace trace => rfl
        | delta piece => rw [signalled, hworker, Option.elim_none]
      rw [hrecords, postedBy, Option.elim_none, List.append_nil]
      exact h
  | some worker =>
      cases passed with
      | trace trace =>
          have hposted : postedBy (fun relay => Turn.deliver relay true (.trace trace))
              (some worker) = [] := rfl
          rw [hposted, List.append_nil]
          exact h
      | delta piece =>
          have hposted : postedBy (fun relay => Turn.deliver relay true (.delta piece))
              (some worker) = [⟨worker.turn, .delta piece⟩] := by
            rw [postedBy, Option.elim_some, Turn.deliver, Relay.delta, h.relay_open hworker]
            rfl
          rw [hposted, signalled, hworker, Option.elim_some]
          exact h.piece hworker piece

/-- The end of the worker, of whichever kind, posts its closing event. -/
theorem coupled_closed {w : World} (h : w.Coupled) {said : Relay → List Delivery}
    (hsaid : ∀ relay : Relay, relay.finished = false →
      ∃ error result, (said relay).filterMap Delivery.event? = [.done error result]) :
    Screen.Coupled
      { w.screen.core with
        worker := none
        posted := w.screen.posted ++ postedBy said w.screen.worker }
      w.records w.unworked := by
  cases hworker : w.screen.worker with
  | none =>
      have hcore : ({ w.screen.core with worker := none, posted := w.screen.posted } : Core) =
          w.screen.core := by
        rw [core, hworker]
      rw [unworked, hworker, Option.elim_none, postedBy, Option.elim_none, List.append_nil,
        hcore]
      exact h
  | some worker =>
      obtain ⟨error, result, hclosing⟩ := hsaid worker.relay (h.relay_open hworker)
      have hposted : postedBy said (some worker) = [⟨worker.turn, .done error result⟩] := by
        rw [postedBy, Option.elim_some, hclosing]
        rfl
      rw [hposted, unworked, hworker, Option.elim_some]
      exact h.closing hworker error result

theorem coupled_ends {w : World} (h : w.Coupled) (render : Renderer) (ending : Ending) :
    (w.move render (.ends ending)).Coupled := by
  rw [Coupled, screen_move, Move.apply, core_workerEnds]
  exact coupled_closed h fun relay hrelay => ⟨_, _, filterMap_event?_close hrelay ending⟩

theorem coupled_cancel {w : World} (h : w.Coupled) (render : Renderer) :
    (w.move render .cancel).Coupled := by
  rw [Coupled, screen_move, Move.apply, core_cancelWorker]
  exact coupled_closed h fun relay hrelay => ⟨_, _, filterMap_event?_done hrelay _ _⟩

theorem coupled_deliver {w : World} (h : w.Coupled) (render : Renderer) :
    (w.move render .deliver).Coupled := by
  rw [Coupled, screen_move, Move.apply, handlePosted]
  show Screen.Coupled _ w.delivered w.running
  rw [delivered]
  cases hposted : w.screen.posted with
  | nil => exact h
  | cons oldest rest =>
      obtain ⟨turn, event⟩ := oldest
      obtain ⟨hcore, hoccasion⟩ := h.flow.oldest hposted
      have hstreaming : w.screen.conversation.streaming = true := hcore
      let s : Screen := { w.screen with posted := rest }
      obtain ⟨piece, hpiece, hflow⟩ |
        ⟨error, result, past, current, hdone, hrest, hworker, hrecords, hturn, hpast, hopen,
          hreply⟩ := hoccasion
      · have hhandle : s.conversation.handle render event =
            ({ s.conversation with reply := s.conversation.reply ++ piece }, .render) := by
          rw [hpiece, Conversation.handle, Conversation.addDelta]
          exact congr (congrArg _ (if_pos hstreaming)) (if_pos hstreaming)
        rw [core_feed (s := s) hhandle (by decide), hpiece]
        exact ⟨h.running, h.ordered, h.begun, h.history, hflow⟩
      · have hhandle : s.conversation.handle render event =
            (s.conversation.finish render error (result.bind StreamResult.finishReason),
              .render) := by
          rw [hdone, Conversation.handle]
          exact if_pos hstreaming
        rw [core_feed (s := s) hhandle (by decide), hdone]
        dsimp only
        rw [if_pos hstreaming, ← hturn, hrecords]
        rw [Coupled, hrecords] at h
        have hcoupled := h.finish hworker hpast hopen hreply render error
          (result.bind StreamResult.finishReason)
        rw [← hrest] at hcoupled
        exact hcoupled

theorem coupled_input {w : World} (h : w.Coupled) (render : Renderer) (given : Input) :
    (w.move render (.input given)).Coupled := by
  have hfed := coupled_foldl_feed h render
    fun event hevent => @isFed_of_mem_events w.screen given event hevent
  rw [Coupled, screen_foldl_feed, ← core_apply] at hfed
  exact hfed

/-- Every move leaves everything coupled. -/
theorem coupled_move {w : World} (h : w.Coupled) (render : Renderer) (m : Move) :
    (w.move render m).Coupled := by
  cases m with
  | input given => exact coupled_input h render given
  | signal passed => exact coupled_signal h render passed
  | ends ending => exact coupled_ends h render ending
  | cancel => exact coupled_cancel h render
  | deliver => exact coupled_deliver h render

theorem coupled_run {w : World} (h : w.Coupled) (render : Renderer) (moves : List Move) :
    (w.run render moves).Coupled := by
  induction moves generalizing w with
  | nil => exact h
  | cons m rest ih => exact ih (coupled_move h render m)

theorem coupled_start (render : Renderer) (config : Config) (time : Log.Timestamp)
    (width height : Int) (logLevel : Option String) :
    (start (Screen.start render config time width height logLevel)).Coupled := by
  have hsame := Conversation.sameTurn_resize render (Conversation.start config.model
    config.sessionKey config.baseUrl Conversation.defaultWidth Conversation.defaultHeight)
    width height
  exact ⟨rfl, .nil, fun turn hturn => absurd hturn List.not_mem_nil, hsame.history,
    .idle hsame.streaming rfl rfl fun record hrecord => absurd hrecord List.not_mem_nil⟩

end World

end Parley.Screen
