import Parley.Failure

/-!
# The lifetime of a connection

A connection that was opened for a piece of work is closed after it, however the
work ends.  A failure to close replaces the failure of the work, except the one
that says that there is nothing left to close.
-/

namespace Parley.Exchange

/-- What a failure says if the loop that owned the connection is gone. -/
def loopGone : String := "Event loop is closed"

/-- Whether `part` occurs in `s`. -/
def contains (part : List Char) : List Char → Bool
  | [] => part.isEmpty
  | c :: rest => part.isPrefixOf (c :: rest) || contains part rest

/-- Whether a failure to close is harmless. -/
def isHarmless : Failure → Bool
  | .unexpected .machinery _ text => contains loopGone.toList text.toList
  | _ => false

/-- The failure with which a piece of work ends, given how it went and how closing
the connection went. -/
def leave (work closing : Option Failure) : Option Failure :=
  match closing with
  | some failure => if isHarmless failure then work else some failure
  | none => work

end Parley.Exchange
