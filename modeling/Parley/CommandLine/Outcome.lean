import Parley.Endpoint.Choice
import Parley.Exchange.Request
import Parley.Log.Sink

/-!
# What a run comes to

A run takes what it needs from its surroundings, writes to two channels, sends
requests, and ends with an exit code or with a failure that nobody expects.
-/

namespace Parley.CommandLine

open Terminal

/-- What a run takes from its surroundings. -/
structure Surroundings where
  environment : Environment
  /-- The clock that session keys are made of. -/
  now : Int
  /-- The time that traces are stamped with. -/
  time : Log.Timestamp
  /-- The answer of the server to the request with a number. -/
  answerAt : Nat → Answer
  /-- What is read line by line. -/
  input : String

/-- The answer where no server is. -/
def Surroundings.noAnswer : Answer :=
  .failure (.transport .connectError "no server")

/-- How a run ends. -/
inductive Ending
  | exit (code : Nat)
  /-- A failure goes through to the caller. -/
  | failure (failure : Failure)
  /-- A text that was to be printed has faulty markup. -/
  | markup (error : MarkupError)
  deriving Repr, DecidableEq

/-- The exit code of a run.  A failure that goes through to the caller makes it one. -/
def Ending.code : Ending → Nat
  | exit code => code
  | failure _ | markup _ => 1

/-- Whether a run has a connection to the server. -/
inductive Connection
  | unused
  | opened
  | closed
  deriving Repr, DecidableEq

/-- What a run does. -/
structure Outcome where
  ending : Ending
  output : String := ""
  /-- What is written for the user besides the output: failures and traces. -/
  reports : String := ""
  /-- The requests that reached the server. -/
  requests : List SentRequest := []
  connection : Connection := .unused
  deriving Repr, DecidableEq

/-- The console of a run. -/
def console : Console := ⟨80, false⟩

/-- The rows of a console that tells no height. -/
def consoleHeight : Int := 25

/-- The colour of failures. -/
def errorColor : Color := .standard 1

/-- What is said when a chat is over. -/
def goodbyeText : String :=
  console.printPlain "\nGoodbye!" (.attributes [.dim])

namespace Outcome

/-- A refusal before anything is done: a report with markup, and an exit code. -/
def refused (report : String) : Outcome :=
  match console.printMarkup report with
  | .ok reports => { ending := .exit 1, reports }
  | .error error => { ending := .markup error }

/-- Closes the connection of a run. -/
def closing (outcome : Outcome) : Outcome :=
  { outcome with connection := .closed }

/-- Ends a run with a failure.  A failure of the chat is reported; a request to stop is
obeyed, at once or after the text it comes with; any other goes through. -/
def failing (outcome : Outcome) (failure : Failure) : Outcome :=
  match failure with
  | .chat refusal =>
      { outcome with
        ending := .exit 1
        reports := outcome.reports ++
          console.printPlain ("Error: " ++ refusal.text) (.colored errorColor) }
  | .stop .interrupt .. =>
      { outcome with ending := .exit 0, output := outcome.output ++ goodbyeText }
  | .stop .exit _ text =>
      if text.isEmpty then { outcome with ending := .exit 0 }
      else { outcome with ending := .exit 1, output := outcome.output ++ text ++ "\n" }
  | .unexpected .endOfInput .. =>
      { outcome with ending := .exit 1, reports := outcome.reports ++ "\nAborted.\n" }
  | _ => { outcome with ending := .failure failure }

end Outcome

end Parley.CommandLine
