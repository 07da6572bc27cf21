import Parley.Chat.Request
import Parley.Endpoint.Config
import Parley.Failure
import Parley.Log.Level

/-!
# Sending a request

A request goes to the completions address of the endpoint.  Its session key
travels in a header, which holds ASCII only.  A request that cannot be built
fails before anything is traced, one that cannot be sent fails after it was
announced.
-/

namespace Parley

/-- A request as the server sees it. -/
structure SentRequest where
  method : String
  url : String
  contentType : String
  /-- The session key, if there is one. -/
  sessionKey : Option String
  body : String
  deriving Repr, DecidableEq

namespace Exchange

/-- The component that exchanges are traced under. -/
def component : String := "HTTP"

/-- A trace of an exchange. -/
def trace (level : Level) (message : String) : Trace :=
  ⟨level.word, component, message⟩

/-- Why a header value cannot be sent: its first run of characters beyond ASCII. -/
def headerFault? (value : List Char) : Option String :=
  let before := value.takeWhile fun c => c.toNat < 0x80
  let rest := value.drop before.length
  let run := rest.takeWhile fun c => 0x80 ≤ c.toNat
  let start := before.length
  match run with
  | [] => none
  | [c] =>
      some ("'ascii' codec can't encode character '" ++ String.ofList (Text.escapeCode c) ++
        "' in position " ++ toString start ++ ": ordinal not in range(128)")
  | _ =>
      some ("'ascii' codec can't encode characters in position " ++ toString start ++ "-" ++
        toString (start + run.length - 1) ++ ": ordinal not in range(128)")

/-- The session header of an endpoint. -/
def sessionHeader (config : Config) : Except Failure (Option String) :=
  if config.sessionKey.isEmpty then .ok none
  else
    match headerFault? config.sessionKey.toList with
    | some fault => .error (.header fault)
    | none => .ok (some config.sessionKey)

/-- The request with a body, addressed to an endpoint. -/
def address [Wire.Platform] (config : Config) (body : String) : Except Failure SentRequest :=
  match Wire.Target.ofAddress config.completionsUrl with
  | .error error => .error (.address error)
  | .ok url => (sessionHeader config).map fun key => ⟨"POST", url, "application/json", key, body⟩

/-- The failure that a request which cannot be built is. -/
def unencodable (problems : List Problem) : Failure :=
  .chat <|
    .unencodable ("marshal request: " ++ Problem.headline Request.recordName problems) problems

/-- The trace that announces a request. -/
def announcement (config : Config) (messages : List Message) (stream : Bool) : Trace :=
  trace .info <| "POST " ++ config.completionsUrl ++ " (" ++ toString messages.length ++
    " messages" ++ (if stream then ", stream)" else ")")

/-- What happens up to the moment a request is sent: the traces, and the request
or the failure. -/
structure Opening where
  traces : List Trace
  request : Except Failure SentRequest

/-- Builds and announces a request. -/
def start [Wire.Platform] (config : Config) (messages : List Message) (stream : Bool) : Opening :=
  match Request.encode config.model messages stream with
  | .error problems => ⟨[], .error (unencodable problems)⟩
  | .ok body => ⟨[announcement config messages stream], address config body⟩

/-- The text about a request that took too long. -/
def timeoutText (config : Config) : String :=
  "request timed out after " ++ config.timeout.general ++ "s"

end Exchange

/-- What arrives of the body of an answer, whose pieces are made of bytes, or of characters
once they are decoded. -/
inductive Arrival (α : Type)
  | piece (data : List α)
  | failure (failure : Failure)
  /-- Nothing arrives until the server goes on. -/
  | silence
  deriving Repr, DecidableEq

/-- What a server does with a request. -/
inductive Answer
  | failure (failure : Failure)
  | response (status : Int) (contentType : Option String) (body : List (Arrival Wire.Byte))
  deriving Repr, DecidableEq

/-- Whether a status means success. -/
def isSuccess (status : Int) : Bool :=
  200 ≤ status && status ≤ 299

/-- How the reading of a whole body stands. -/
inductive Collected
  | complete (data : List Wire.Byte)
  | failed (failure : Failure)
  | waiting (data : List Wire.Byte) (rest : List (Arrival Wire.Byte))
  deriving Repr, DecidableEq

/-- Reads a whole body, given what was read before. -/
def Collected.ofArrivals (data : List Wire.Byte) : List (Arrival Wire.Byte) → Collected
  | [] => complete data
  | .piece more :: rest => ofArrivals (data ++ more) rest
  | .failure failure :: _ => failed failure
  | .silence :: rest => waiting data rest

end Parley
