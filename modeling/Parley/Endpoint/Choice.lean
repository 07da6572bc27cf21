import Parley.Endpoint.Config
import Parley.Terminal.Console

/-!
# Choosing the settings

Every setting can be given by a flag or by a variable of the environment; a flag
wins over the variable, and the variable over the default.  Settings that do not
pass the check are reported on the console.
-/

namespace Parley

/-- The flags that give settings. -/
structure Flags where
  server : Option String := none
  session : Option String := none
  model : Option String := none
  timeout : Option Json := none

/-- The variables of the environment. -/
abbrev Environment := List (String × String)

/-- The value of a variable. -/
def Environment.get? (environment : Environment) (name : String) : Option String :=
  (environment.find? fun entry => entry.1 == name).map Prod.snd

/-- Why settings are refused. -/
inductive ChoiceError
  | unreadableTimeout (text : String)
  | invalid (problems : List Problem)
  deriving Repr, DecidableEq

namespace ChoiceError

/-- What is wrong. -/
def message : ChoiceError → String
  | unreadableTimeout text => "could not convert string to float: " ++ Text.quoted text
  | invalid problems => Problem.summary problems

/-- The report, as markup. -/
def report (error : ChoiceError) : String :=
  "[red]Error: invalid configuration: " ++ error.message ++ "[/red]"

end ChoiceError

namespace Config

/-- The variable for the server. -/
def serverVariable : String := "ECHOCTL_SERVER"

/-- The variable for the session key. -/
def sessionVariable : String := "ECHOCTL_SESSION"

/-- The variable for the model. -/
def modelVariable : String := "ECHOCTL_MODEL"

/-- The variable for the timeout. -/
def timeoutVariable : String := "ECHOCTL_TIMEOUT"

/-- The timeout that is chosen. -/
def chosenTimeout (flags : Flags) (environment : Environment) : Except ChoiceError Json :=
  match flags.timeout, environment.get? timeoutVariable with
  | some value, _ => .ok value
  | none, some text =>
      (lenientNumber text).elim (.error (.unreadableTimeout text)) fun x => .ok (.float x)
  | none, none => .ok (.float defaultTimeout)

/-- A text setting that is chosen. -/
def chosenText (flag : Option String) (environment : Environment) (name default : String) :
    String :=
  flag.getD ((environment.get? name).getD default)

/-- The settings that are chosen, as a record to be checked. -/
def chosen (flags : Flags) (environment : Environment) (timeout : Json) : Json :=
  .object [
    ("base_url", .string (chosenText flags.server environment serverVariable defaultServer)),
    ("session_key", .string (chosenText flags.session environment sessionVariable "")),
    ("model", .string (chosenText flags.model environment modelVariable defaultModel)),
    ("timeout", timeout)]

/-- Chooses the settings at a moment of the clock. -/
def choose (flags : Flags) (environment : Environment) (now : Int) : Except ChoiceError Config :=
  match chosenTimeout flags environment with
  | .error error => .error error
  | .ok timeout =>
      match check now (chosen flags environment timeout) with
      | .ok config => .ok config
      | .error problems => .error (.invalid problems)

end Config

end Parley
