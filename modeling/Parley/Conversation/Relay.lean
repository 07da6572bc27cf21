import Parley.Conversation.Event
import Parley.Log.Level

/-!
# Relaying a turn

The task that reads a reply tells the interface about it through a relay: each
piece as it arrives, and one closing event.  After the closing event the relay
passes nothing on.
-/

namespace Parley

/-- Something that a turn hands over to the interface. -/
inductive Delivery
  | event (event : Event)
  | trace (trace : Trace)
  deriving Repr, DecidableEq

namespace Delivery

/-- The event that a delivery is. -/
def event? : Delivery → Option Event
  | event passed => some passed
  | trace _ => none

/-- The trace that a delivery is. -/
def trace? : Delivery → Option Trace
  | trace passed => some passed
  | event _ => none

end Delivery

/-- The relay of one turn. -/
structure Relay where
  /-- Whether traces have a receiver. -/
  traced : Bool
  /-- Whether the interface runs in another thread, so that deliveries have to
  cross over to it. -/
  remote : Bool
  finished : Bool
  deriving Repr, DecidableEq

namespace Relay

/-- The relay of a turn that begins. -/
def start (traced remote : Bool) : Relay :=
  ⟨traced, remote, false⟩

/-- Passes a piece of the reply on. -/
def delta (relay : Relay) (text : String) : List Delivery :=
  if relay.finished then [] else [.event (.delta text)]

/-- Closes the turn. -/
def done (relay : Relay) (error : Option Failure) (result : Option StreamResult) :
    List Delivery × Relay :=
  if relay.finished then ([], relay)
  else ([.event (.done error result)], { relay with finished := true })

/-- Passes a trace on. -/
def debug (relay : Relay) (trace : Trace) : List Delivery :=
  if relay.traced then [.trace trace] else []

/-- How many deliveries cross over to another thread. -/
def crossings (relay : Relay) (deliveries : List Delivery) : Nat :=
  if relay.remote then deliveries.length else 0

end Relay

end Parley
