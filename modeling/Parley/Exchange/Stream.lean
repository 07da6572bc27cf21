import Parley.Chat.Chunk
import Parley.Exchange.Request
import Parley.Wire.Codec
import Parley.Wire.Lines

/-!
# Streamed replies

The body of a streamed reply is decoded and cut into lines as it arrives, and
every chunk that a line carries adds its deltas to the reply.  The reply ends
with the closing marker or with the body, and breaks off where it cannot be decoded.
While the server is silent the exchange waits, and it goes on, runs out of time or is
cancelled.
-/

namespace Parley

/-- What an exchange shows while it runs. -/
inductive Signal
  | trace (trace : Trace)
  | delta (text : String)
  deriving Repr, DecidableEq

namespace Signal

/-- The delta that a signal is. -/
def delta? : Signal → Option String
  | delta text => some text
  | trace _ => none

/-- The trace that a signal is. -/
def trace? : Signal → Option Trace
  | trace shown => some shown
  | delta _ => none

end Signal

/-- What was read of a reply. -/
structure Transcript where
  content : String
  finishReason : Option String
  chunks : Nat
  deriving Repr, DecidableEq

namespace Transcript

/-- Nothing was read. -/
def empty : Transcript :=
  ⟨"", none, 0⟩

/-- Adds a chunk. -/
def add (t : Transcript) (chunk : Chunk) : Transcript :=
  ⟨t.content ++ String.join chunk.deltas, chunk.finishReason <|> t.finishReason, t.chunks + 1⟩

/-- The characters of a malformed line that its warning shows. -/
def shownLength : Nat := 80

/-- The warning about a data line that carries no chunk. -/
def skipped (line : String) : Signal :=
  .trace <| Exchange.trace .warning <|
    "Skipped malformed chunk: " ++ Text.quoted (Text.takeText line shownLength)

/-- The trace of the closing marker. -/
def closed : Signal :=
  .trace (Exchange.trace .debug "Received [DONE]")

/-- Reads lines, until one of them closes the reply. -/
def readLines (t : Transcript) : List String → List Signal × Transcript × Bool
  | [] => ([], t, false)
  | line :: rest =>
      match StreamLine.decode line with
      | .done => ([closed], t, true)
      | .nothing =>
          let (signals, read) := readLines t rest
          (if StreamLine.isData line then skipped line :: signals else signals, read)
      | .chunk chunk =>
          let (signals, read) := readLines (t.add chunk) rest
          (chunk.deltas.map Signal.delta ++ signals, read)

/-- The traces of a complete reply. -/
def completion (t : Transcript) : List Signal :=
  (match t.finishReason with
    | some reason => [.trace (Exchange.trace .info ("Finish reason: " ++ reason))]
    | none => []) ++
  [.trace (Exchange.trace .info ("Stream complete: " ++ toString t.chunks ++ " chunks, " ++
    toString t.content.length ++ " chars"))]

/-- The result of a complete reply. -/
def result (t : Transcript) : StreamResult :=
  ⟨t.content, t.finishReason, t.chunks⟩

end Transcript

namespace Arrival

/-- What a codec in some state makes of the rest of a body.  An error of the codec breaks the
body off.  Empty pieces are passed over. -/
def decodeFrom (codec : Wire.Codec) (state : codec.State) :
    List (Arrival Wire.Byte) → List (Arrival Char)
  | [] =>
      match codec.finish state with
      | .ok last => [piece last]
      | .error error => [failure (.undecodable error)]
  | piece data :: rest =>
      if data.isEmpty then decodeFrom codec state rest
      else
        match codec.feed state data with
        | .ok (text, next) => piece text :: decodeFrom codec next rest
        | .error error => [failure (.undecodable error)]
  | failure cause :: _ => [failure cause]
  | silence :: rest => silence :: decodeFrom codec state rest

/-- What a codec makes of a body. -/
def decode (codec : Wire.Codec) (body : List (Arrival Wire.Byte)) : List (Arrival Char) :=
  match codec.start with
  | .ok state => decodeFrom codec state body
  | .error error => [failure (.undecodable error)]

end Arrival

/-- A reader of the text of a streamed body. -/
structure StreamReader where
  cutter : Wire.LineCutter
  transcript : Transcript
  deriving Repr, DecidableEq

namespace StreamReader

/-- A reader at the start of a body. -/
def start : StreamReader :=
  ⟨.start, .empty⟩

/-- Reads a piece of the text; the flag says whether the reply is closed. -/
def feed (reader : StreamReader) (text : List Char) : List Signal × StreamReader × Bool :=
  let (lines, cutter) := reader.cutter.feed text
  let (signals, transcript, closed) := reader.transcript.readLines lines
  (signals, ⟨cutter, transcript⟩, closed)

/-- Reads what the end of the text still brings. -/
def finish (reader : StreamReader) : List Signal × Transcript :=
  let (signals, transcript, _) := reader.transcript.readLines reader.cutter.finish
  (signals, transcript)

end StreamReader

/-- How a streaming exchange stands. -/
inductive StreamState
  | reading (reader : StreamReader) (rest : List (Arrival Char))
  | refused (status : Int) (data : List Wire.Byte) (rest : List (Arrival Wire.Byte))
  | ended (outcome : Except Failure StreamResult)

namespace StreamState

/-- The reply as far as it was received. -/
def received : StreamState → String
  | reading reader _ => reader.transcript.content
  | _ => ""

/-- A failure of the connection, as the failure of the chat that it is.  The flag
says whether the reply had begun. -/
def fail (config : Config) (begun : Bool) (received : String) :
    Failure → List Signal × StreamState
  | .deadline _ =>
      ([.trace (Exchange.trace .error ("Timed out after " ++ config.timeout.general ++ "s"))],
        ended (.error (.chat (.timedOut (Exchange.timeoutText config) received))))
  | .transport kind text =>
      let failure := Failure.transport kind text
      ([.trace (Exchange.trace .error (kind.name ++ ": " ++ failure.described))],
        ended <| .error <| .chat <|
          if kind.isTimeout then .timedOut (Exchange.timeoutText config) received
          else if begun then .interrupted ("read stream: " ++ failure.described) received
          else .connectionFailed ("http request: " ++ failure.described))
  | failure => ([], ended (.error failure))

/-- The end of a complete reply. -/
def complete (transcript : Transcript) : List Signal × StreamState :=
  (transcript.completion, ended (.ok transcript.result))

/-- Puts signals before those of the rest of an exchange. -/
def after (signals : List Signal) (rest : List Signal × StreamState) : List Signal × StreamState :=
  (signals ++ rest.1, rest.2)

/-- Reads the text of a reply. -/
def listen (config : Config) (reader : StreamReader) :
    List (Arrival Char) → List Signal × StreamState
  | [] =>
      let (signals, transcript) := reader.finish
      after signals (complete transcript)
  | .piece text :: rest =>
      let (signals, next, closed) := reader.feed text
      after signals (if closed then complete next.transcript else listen config next rest)
  | .failure failure :: _ => fail config true reader.transcript.content failure
  | .silence :: rest => ([], reading reader rest)

/-- Reads the body of a refusal. -/
def listenRefused (config : Config) (status : Int) (data : List Wire.Byte)
    (body : List (Arrival Wire.Byte)) : List Signal × StreamState :=
  match Collected.ofArrivals data body with
  | .complete data =>
      ([.trace (Exchange.trace .error ("Status " ++ toString status))],
        ended (.error (.chat (.ofStatus status (Wire.Utf8.decode data)))))
  | .failed failure => fail config false "" failure
  | .waiting data rest => ([], refused status data rest)

/-- What an answer leads to. -/
def ofAnswer [Wire.Platform] (config : Config) : Answer → List Signal × StreamState
  | .failure failure => fail config false "" failure
  | .response status contentType body =>
      if isSuccess status then
        after
          [.trace (Exchange.trace .debug ("Status " ++ toString status ++ ", reading stream"))]
          (listen config .start (Arrival.decode (.ofContentType contentType) body))
      else listenRefused config status [] body

/-- The server goes on. -/
def resume (config : Config) : StreamState → List Signal × StreamState
  | reading reader rest => listen config reader rest
  | refused status data rest => listenRefused config status data rest
  | ended outcome => ([], ended outcome)

/-- The time for the exchange runs out. -/
def expire (config : Config) : StreamState → List Signal × StreamState
  | reading reader _ => fail config true reader.transcript.content (.deadline "")
  | refused .. => fail config false "" (.deadline "")
  | ended outcome => ([], ended outcome)

end StreamState

/-- A streaming exchange from its start to its end. -/
structure StreamRun where
  signals : List Signal
  request : Option SentRequest
  outcome : Except Failure StreamResult

namespace StreamRun

/-- The deltas of an exchange, in the order of their arrival. -/
def deltas (run : StreamRun) : List String :=
  run.signals.filterMap Signal.delta?

/-- The traces of an exchange. -/
def traces (run : StreamRun) : List Trace :=
  run.signals.filterMap Signal.trace?

/-- Asks for a streamed reply; a server that falls silent lets the time run out. -/
def run [Wire.Platform] (config : Config) (messages : List Message) (answer : Answer) : StreamRun :=
  let opening := Exchange.start config messages true
  let announced := opening.traces.map Signal.trace
  match opening.request with
  | .error failure => ⟨announced, none, .error failure⟩
  | .ok request =>
      let (signals, state) := StreamState.ofAnswer config answer
      match state with
      | .ended outcome => ⟨announced ++ signals, some request, outcome⟩
      | waiting =>
          let (more, state) := waiting.expire config
          match state with
          | .ended outcome => ⟨announced ++ signals ++ more, some request, outcome⟩
          | _ => ⟨announced ++ signals ++ more, some request, .error (.deadline "")⟩

end StreamRun

end Parley
