import Parley.Chat.Reply
import Parley.Exchange.Request
import Parley.Wire.Codec

/-!
# Whole replies

A reply that is not streamed is read as a whole and then judged: a body that
reports an error is a failure whatever its status, and a body that cannot be read
counts as an error of the server unless the status says success.  The text of a refusal is
read in the character set of its content type, which may fail in its own way.
-/

namespace Parley

/-- The text of a whole body, which has to be without faults. -/
def Reply.ofBytes (data : List Wire.Byte) : Checked Reply :=
  match Wire.Utf8.decode? data with
  | none => Checked.fail .malformed
  | some text => Reply.decode text

namespace ReplyRun

/-- The failure that an unreadable reply is. -/
def unreadable (problems : List Problem) : ChatFailure :=
  .general ("unmarshal response: " ++ Problem.headline Reply.recordName problems) problems

variable [Wire.Platform]

/-- The failure that an answer with an error status is. -/
def refusal (status : Int) (contentType : Option String) (data : List Wire.Byte) : Failure :=
  match (Wire.Codec.ofContentType contentType).readWhole data with
  | .ok text => .chat (.ofStatus status text)
  | .error error => .undecodable error

/-- Judges an answer by its status and its whole body. -/
def judge (status : Int) (contentType : Option String) (data : List Wire.Byte) :
    Except Failure String :=
  match Reply.ofBytes data with
  | .error problems =>
      if isSuccess status then .error (.chat (unreadable problems))
      else .error (refusal status contentType data)
  | .ok reply =>
      match reply.reported? with
      | some text => .error (.chat (.serverReported ("server error: " ++ text)))
      | none =>
          if isSuccess status then
            reply.content?.elim (.error (.chat (.emptyReply "empty response from server"))) .ok
          else .error (refusal status contentType data)

/-- A failure of the connection, as the failure of the chat that it is. -/
def ofFailure (config : Config) : Failure → Failure
  | .deadline _ => .chat (.timedOut (Exchange.timeoutText config) "")
  | .transport kind text =>
      if kind.isTimeout then .chat (.timedOut (Exchange.timeoutText config) "")
      else .chat (.connectionFailed ("http request: " ++ (Failure.transport kind text).described))
  | failure => failure

/-- The traces after an answer, and the reply. -/
def ofAnswer (config : Config) : Answer → List Trace × Except Failure String
  | .failure failure => ([], .error (ofFailure config failure))
  | .response status contentType body =>
      match Collected.ofArrivals [] body with
      | .failed failure => ([], .error (ofFailure config failure))
      | .waiting .. => ([], .error (ofFailure config (.deadline "")))
      | .complete data =>
          ([Exchange.trace .debug ("Status " ++ toString status)],
            judge status contentType data)

end ReplyRun

/-- An exchange for a whole reply, from its start to its end. -/
structure ReplyRun where
  traces : List Trace
  request : Option SentRequest
  outcome : Except Failure String

namespace ReplyRun

/-- Asks for a whole reply; a server that falls silent lets the time run out. -/
def run [Wire.Platform] (config : Config) (messages : List Message) (answer : Answer) : ReplyRun :=
  let opening := Exchange.start config messages false
  match opening.request with
  | .error failure => ⟨opening.traces, none, .error failure⟩
  | .ok request =>
      let (traces, outcome) := ofAnswer config answer
      ⟨opening.traces ++ traces, some request, outcome⟩

end ReplyRun

end Parley
