import Parley.Conversation.Relay
import Parley.Exchange.Stream

/-!
# Turns

A turn is a streaming exchange whose signals go to the interface.  However the
exchange ends, one closing event tells so: with the result, with the failure, or,
when the turn is cancelled, with a failure that says it was cancelled.
-/

namespace Parley

/-- A turn: its relay, and how its exchange stands. -/
structure Turn where
  relay : Relay
  /-- Whether the traces of the exchange have a receiver. -/
  traced : Bool
  state : StreamState

namespace Turn

/-- The trace of a failure that nobody expects. -/
def surprise (failure : Failure) : Trace :=
  ⟨Level.error.word, "Stream", "Unexpected " ++ failure.name ++ ": " ++ failure.text⟩

/-- Closes a turn.  A failure that asks the program to stop closes nothing. -/
def close (relay : Relay) : Except Failure StreamResult → List Delivery × Relay
  | .ok result => relay.done none (some result)
  | .error (.chat failure) => relay.done (some (.chat failure)) none
  | .error (.stop ..) => ([], relay)
  | .error failure =>
      let (closing, relay) := relay.done (some failure) none
      ((if relay.traced then [.trace (surprise failure)] else []) ++ closing, relay)

/-- Hands a signal over. -/
def deliver (relay : Relay) (traced : Bool) : Signal → List Delivery
  | .trace trace => if traced then [.trace trace] else []
  | .delta text => relay.delta text

/-- Goes on with signals and the state after them. -/
def proceed (turn : Turn) (step : List Signal × StreamState) : List Delivery × Turn :=
  let deliveries := step.1.flatMap (deliver turn.relay turn.traced)
  match step.2 with
  | .ended outcome =>
      let (closing, relay) := close turn.relay outcome
      (deliveries ++ closing, { turn with relay, state := step.2 })
  | state => (deliveries, { turn with state })

/-- How an exchange begins: the request, if one is sent, the first signals, and the
state after them.  The answer is asked for only if a request is sent. -/
def opening [Wire.Platform] (config : Config) (messages : List Message) (answer : Answer) :
    Option SentRequest × List Signal × StreamState :=
  let opening := Exchange.start config messages true
  let announced := opening.traces.map Signal.trace
  match opening.request with
  | .error failure => (none, announced, .ended (.error failure))
  | .ok request =>
      let (signals, state) := StreamState.ofAnswer config answer
      (some request, announced ++ signals, state)

/-- Starts a turn. -/
def start [Wire.Platform] (config : Config) (messages : List Message) (traced : Bool)
    (relay : Relay) (answer : Answer) : Option SentRequest × List Delivery × Turn :=
  let (request, signals, state) := opening config messages answer
  (request, proceed ⟨relay, traced, state⟩ (signals, state))

/-- Whether the exchange is still going on. -/
def isRunning (turn : Turn) : Bool :=
  match turn.state with
  | .ended _ => false
  | _ => true

/-- The request to stop that the exchange has ended with. -/
def stop? (turn : Turn) : Option Failure :=
  match turn.state with
  | .ended (.error failure) => if failure.isStop then some failure else none
  | _ => none

/-- The server goes on. -/
def resume (config : Config) (turn : Turn) : List Delivery × Turn :=
  turn.proceed (turn.state.resume config)

/-- The time for the exchange runs out. -/
def expire (config : Config) (turn : Turn) : List Delivery × Turn :=
  turn.proceed (turn.state.expire config)

/-- The turn is cancelled. -/
def cancel (turn : Turn) : List Delivery × Turn :=
  let (closing, relay) := turn.relay.done (some .cancelled) none
  (closing, { turn with relay, state := .ended (.error .cancelled) })

/-- What the task of a turn lets through to whoever waits for it. -/
inductive Escape
  | cancellation
  | stop (failure : Failure)
  deriving Repr, DecidableEq

/-- What escapes from a turn: the cancellation, if the exchange is still going on, or a
request to stop. -/
def escape? (turn : Turn) (cancelled : Bool) : Option Escape :=
  if cancelled && turn.isRunning then some .cancellation else turn.stop?.map .stop

end Turn

end Parley
