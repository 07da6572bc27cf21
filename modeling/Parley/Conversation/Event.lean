import Parley.Chat.Chunk
import Parley.Failure

/-!
# Events of a conversation

What the user does and what arrives of a reply reach a conversation as events,
so that one loop can handle them in their order.  Handling an event yields an
action for the interface.
-/

namespace Parley

/-- Something that happens to a conversation. -/
inductive Event
  /-- The input now reads `text`. -/
  | edit (text : String)
  | submit
  | resize (width height : Int)
  /-- A piece of the reply arrived. -/
  | delta (text : String)
  /-- The reply is over; there is an error if it failed. -/
  | done (error : Option Failure) (result : Option StreamResult)
  | quit
  deriving Repr, DecidableEq

/-- What the interface has to do after an event. -/
inductive Action
  | none
  | render
  | startTurn
  | clear
  | quit
  deriving Repr, DecidableEq

namespace Action

/-- The word for an action. -/
def word : Action → String
  | none => "none"
  | render => "render"
  | startTurn => "start_turn"
  | clear => "clear"
  | quit => "quit"

end Action

end Parley
