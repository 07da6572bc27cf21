import Parley.Endpoint.Address
import Parley.Record.Check

/-!
# Endpoint settings

The settings of a connection: where the server is, under which key the session
runs, which model answers, and how long a request may take.  A record of
settings is checked as a whole; a session key that is missing or empty is made
up from the model and the clock.
-/

namespace Parley

/-- The settings of a connection. -/
structure Config where
  baseUrl : String
  sessionKey : String
  model : String
  timeout : Binary64
  deriving Repr, DecidableEq

namespace Config

/-- The record name of settings. -/
def recordName : String := "EndpointConfig"

/-- The server that is used if none is given. -/
def defaultServer : String := "http://localhost:11789"

/-- The model that is used if none is given. -/
def defaultModel : String := "Echoryn"

/-- The time that a request may take if none is given. -/
def defaultTimeout : Binary64 := Binary64.ofInt 120

/-- A session key that is made up at a moment of the clock. -/
def freshKey (model : String) (now : Int) : String :=
  "echo-" ++ model ++ "-" ++ toString now

/-- The address that requests go to. -/
def completionsUrl (config : Config) : String :=
  config.baseUrl ++ "/v1/chat/completions"

/-- An address in its normal form. -/
def checkUrl (value : Json) : Checked String :=
  match Checked.text value with
  | .ok s =>
      match Address.normalize s with
      | .ok url => .ok url
      | .error error => Checked.fail (.refused error.message)
  | failed => failed

/-- The model that a made-up session key names: the given one unless it is absent
or blank. -/
def keyModel (found : List (String × Json)) : String :=
  match Json.member? "model" found with
  | some value =>
      if value.isBlankValue then defaultModel
      else
        match value with
        | .string s => s
        | other => other.shown
  | none => defaultModel

/-- The members with a made-up session key if the given one is absent or blank. -/
def withKey (now : Int) (found : List (String × Json)) : List (String × Json) :=
  let given := Json.member? "session_key" found
  if given.all Json.isBlankValue then
    Json.insertMember "session_key" (.string (freshKey (keyModel found) now)) found
  else found

/-- Settings from their members. -/
def ofMembers (found : List (String × Json)) : Checked Config :=
  Checked.both (fun url rest => ⟨url, rest.1, rest.2.1, rest.2.2⟩)
    (Checked.optional "base_url" defaultServer checkUrl found)
    (Checked.both Prod.mk
      (Checked.optional "session_key" "" Checked.text found)
      (Checked.both Prod.mk
        (Checked.optional "model" defaultModel Checked.nonEmptyText found)
        (Checked.optional "timeout" defaultTimeout Checked.positiveNumber found)))

/-- Checks a record of settings at a moment of the clock. -/
def check (now : Int) (value : Json) : Checked Config :=
  match Checked.members (.notRecord recordName) value with
  | .ok found => ofMembers (withKey now found)
  | .error problems => .error problems

/-- Settings cannot be changed: assigning any field fails. -/
def assign (_ : Config) (field : String) : Checked Config :=
  .error [⟨[.field field], .frozen⟩]

end Config

end Parley
