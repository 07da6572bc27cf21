import Parley.Screen.State

/-!
# Worlds

A world is a screen with the records of what its workers did.  Whatever may happen
to the screen is a move: an input, a signal or the end of the exchange of the worker,
its cancellation, or the handling of the oldest event that was posted.  Moves come in
any order.  The records are kept beside the screen, which never reads them.
-/

namespace Parley.Screen

/-! ## Moves -/

/-- What reaches the screen from the user, the terminal and the clock. -/
inductive Input
  | edit (text : String)
  | submit
  | quit
  | press (key : Key)
  | paste (text : String)
  | typeText (text : String)
  | notice
  | resize (width height : Int)
  | tick
  deriving Repr, DecidableEq

namespace Input

def apply (render : Renderer) (s : Screen) : Input → Screen
  | edit text => s.feed render (.edit text)
  | submit => s.feed render .submit
  | quit => s.feed render .quit
  | press key => s.press render key
  | paste text => s.paste text
  | typeText text => s.typeText text
  | notice => s.handleNotice render
  | resize width height => s.resize render width height
  | tick => s.tick

/-- The events of the user that a notice amounts to. -/
def eventsOf : Notice → List Event
  | .changed text => [.edit text]
  | .submitted text => [.edit text, .submit]

/-- The events that an input has the screen feed to its conversation. -/
def events (s : Screen) : Input → List Event
  | edit text => [.edit text]
  | submit => [.submit]
  | quit => [.quit]
  | press .clearChat =>
      if s.conversation.streaming then [] else [.edit Conversation.clearCommand, .submit]
  | notice => (s.notices.head?.map eventsOf).getD []
  | resize width height => [.resize width height]
  | press _ | paste _ | typeText _ | tick => []

end Input

/-- How the exchange of a worker ends while the program goes on. -/
inductive Ending
  | replied (result : StreamResult)
  | failed (cause : Failure) (going : cause.isStop = false)

namespace Ending

def outcome : Ending → Except Failure StreamResult
  | replied result => .ok result
  | failed cause _ => .error cause

def failure? : Ending → Option Failure
  | replied _ => none
  | failed cause _ => some cause

def result? : Ending → Option StreamResult
  | replied result => some result
  | failed _ _ => none

end Ending

/-- What may happen to a screen. -/
inductive Move
  | input (given : Input)
  | signal (passed : Signal)
  | ends (ending : Ending)
  | cancel
  | deliver

def Move.apply (render : Renderer) (s : Screen) : Move → Screen
  | input given => given.apply render s
  | signal passed => s.workerSignal passed
  | ends ending => s.workerEnds ending.outcome
  | cancel => s.cancelWorker
  | deliver => s.handlePosted render

/-! ## Records -/

/-- What is known about a turn. -/
structure TurnRecord where
  turn : Nat
  asked : String
  /-- What the worker of the turn has handed over, piece by piece. -/
  emitted : List String
  /-- The error of the closing event, if there is one, once it was handled. -/
  closed : Option (Option Failure)
  deriving Repr, DecidableEq

namespace TurnRecord

def text (record : TurnRecord) : String :=
  String.join record.emitted

/-- The messages that a turn leaves in the history. -/
def messages (record : TurnRecord) : List Message :=
  ⟨.user, record.asked⟩ ::
    match record.closed with
    | none => []
    | some error =>
        if error.isNone || !record.text.isEmpty then [⟨.assistant, record.text⟩] else []

/-- Takes a piece of the given turn down. -/
def emit (turn : Nat) (piece : String) (record : TurnRecord) : TurnRecord :=
  if record.turn = turn then { record with emitted := record.emitted ++ [piece] } else record

/-- Takes down that the given turn was closed. -/
def close (turn : Nat) (error : Option Failure) (record : TurnRecord) : TurnRecord :=
  if record.turn = turn then { record with closed := some error } else record

theorem messages_of_open {record : TurnRecord} (hopen : record.closed = none) :
    record.messages = [⟨.user, record.asked⟩] := by
  rw [messages, hopen]

section Ordered

variable {past : List TurnRecord} {current : TurnRecord}

/-- What changes nothing of earlier turns changes the last record only. -/
theorem map_of_ordered (hordered : ((past ++ [current]).map turn).Pairwise (· < ·))
    {f : TurnRecord → TurnRecord}
    (hf : ∀ record, record.turn < current.turn → f record = record) :
    (past ++ [current]).map f = past ++ [f current] := by
  have hpast : past.map f = past := by
    refine (List.map_congr_left ?_).trans (List.map_id past)
    intro record hrecord
    rw [List.map_append] at hordered
    exact hf record ((List.pairwise_append.mp hordered).2.2 record.turn
      (List.mem_map_of_mem hrecord) current.turn List.mem_cons_self)
  rw [List.map_append, hpast, List.map_cons, List.map_nil]

theorem map_emit (hordered : ((past ++ [current]).map turn).Pairwise (· < ·))
    (piece : String) :
    (past ++ [current]).map (emit current.turn piece) =
      past ++ [{ current with emitted := current.emitted ++ [piece] }] := by
  have hearlier : ∀ record : TurnRecord, record.turn < current.turn →
      record.emit current.turn piece = record := by
    intro record hlt
    rw [emit, if_neg (Nat.ne_of_lt hlt)]
  rw [map_of_ordered hordered hearlier, emit, if_pos rfl]

theorem map_close (hordered : ((past ++ [current]).map turn).Pairwise (· < ·))
    (error : Option Failure) :
    (past ++ [current]).map (close current.turn error) =
      past ++ [{ current with closed := some error }] := by
  have hearlier : ∀ record : TurnRecord, record.turn < current.turn →
      record.close current.turn error = record := by
    intro record hlt
    rw [close, if_neg (Nat.ne_of_lt hlt)]
  rw [map_of_ordered hordered hearlier, close, if_pos rfl]

theorem map_turn_last (past : List TurnRecord) {after : TurnRecord}
    (hturn : after.turn = current.turn) :
    (past ++ [after]).map turn = (past ++ [current]).map turn := by
  rw [List.map_append, List.map_append, List.map_cons, List.map_cons, hturn]

end Ordered

end TurnRecord

/-! ## Worlds -/

/-- A screen with what its workers did. -/
structure World where
  screen : Screen
  /-- The turns that have begun since the conversation was last emptied. -/
  records : List TurnRecord
  /-- The numbers of the turns whose workers have begun and not ended. -/
  running : List Nat
  deriving Repr, DecidableEq

namespace World

def start (screen : Screen) : World :=
  ⟨screen, [], []⟩

/-- The screen feeds an event to its conversation. -/
def feed (render : Renderer) (w : World) (event : Event) : World :=
  let fed := w.screen.feed render event
  match (w.screen.conversation.handle render event).2 with
  | .startTurn =>
      ⟨fed, w.records ++ [⟨w.screen.turns, Text.stripText w.screen.conversation.input, [], none⟩],
        w.running ++ [w.screen.turns]⟩
  | .clear => ⟨fed, [], w.running⟩
  | _ => { w with screen := fed }

/-- The records after a signal of the worker. -/
def signalled (w : World) : Signal → List TurnRecord
  | .delta piece =>
      w.screen.worker.elim w.records fun worker =>
        w.records.map (TurnRecord.emit worker.turn piece)
  | .trace _ => w.records

/-- The running turns after the end of the worker. -/
def unworked (w : World) : List Nat :=
  w.screen.worker.elim w.running fun worker => w.running.filter (· ≠ worker.turn)

/-- The records after the oldest posted event is handled. -/
def delivered (w : World) : List TurnRecord :=
  match w.screen.posted with
  | ⟨turn, .done error _⟩ :: _ =>
      if w.screen.conversation.streaming then w.records.map (TurnRecord.close turn error)
      else w.records
  | _ => w.records

/-- A move, with what there is to take down of it. -/
def move (render : Renderer) (w : World) (m : Move) : World :=
  let screen := m.apply render w.screen
  match m with
  | .input given => { (given.events w.screen).foldl (feed render) w with screen }
  | .signal passed => { w with screen, records := w.signalled passed }
  | .ends _ | .cancel => { w with screen, running := w.unworked }
  | .deliver => { w with screen, records := w.delivered }

/-- Moves in the given order. -/
def run (render : Renderer) (w : World) (moves : List Move) : World :=
  moves.foldl (move render) w

theorem screen_feed (render : Renderer) (w : World) (event : Event) :
    (w.feed render event).screen = w.screen.feed render event := by
  rw [feed]
  split
  · rfl
  · rfl
  · rfl

theorem screen_foldl_feed (render : Renderer) (w : World) (events : List Event) :
    (events.foldl (feed render) w).screen = events.foldl (Screen.feed render) w.screen := by
  induction events generalizing w with
  | nil => rfl
  | cons event rest ih => rw [List.foldl_cons, ih, screen_feed, List.foldl_cons]

/-- What happens to the screen of a world is what happens to the screen. -/
theorem screen_move (render : Renderer) (w : World) (m : Move) :
    (w.move render m).screen = m.apply render w.screen := by
  cases m with
  | input given => rfl
  | signal passed => rfl
  | ends ending => rfl
  | cancel => rfl
  | deliver => rfl

theorem screen_run (render : Renderer) (w : World) (moves : List Move) :
    (w.run render moves).screen = moves.foldl (Move.apply render) w.screen := by
  induction moves generalizing w with
  | nil => rfl
  | cons m rest ih => rw [run, List.foldl_cons, ← run, ih, screen_move, List.foldl_cons]

end World

end Parley.Screen
