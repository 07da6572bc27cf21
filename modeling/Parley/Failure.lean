import Parley.Record.Problem
import Parley.Wire.Target

/-!
# Failures

A chat can fail in many places: the request cannot be built or sent, the
connection breaks, the server refuses or reports an error, the reply ends early
or comes too late.  `ChatFailure` holds the failures that a chat is expected to
have; `Failure` adds what its surroundings can raise.
-/

namespace Parley

/-- How a chat fails. -/
inductive ChatFailure
  | general (text : String) (problems : List Problem)
  | unencodable (text : String) (problems : List Problem)
  | connectionFailed (text : String)
  | serverStatus (status : Int) (body : String)
  | serverReported (text : String)
  | emptyReply (text : String)
  /-- The reply broke off; `received` had arrived. -/
  | interrupted (text received : String)
  /-- The reply took too long; `received` had arrived. -/
  | timedOut (text received : String)
  deriving Repr, DecidableEq

namespace ChatFailure

/-- The characters of an error body that are kept. -/
def maxBody : Nat := 1024

/-- The failure that an error status is, with a long body cut. -/
def ofStatus (status : Int) (body : String) : ChatFailure :=
  if body.length ≤ maxBody then serverStatus status body
  else serverStatus status (Text.takeText body maxBody ++ "...")

/-- The name of a kind of failure. -/
def name : ChatFailure → String
  | general .. => "HivemindError"
  | unencodable .. => "RequestEncodeError"
  | connectionFailed _ => "ConnectionFailedError"
  | serverStatus .. => "ServerStatusError"
  | serverReported _ => "ServerReportedError"
  | emptyReply _ => "EmptyResponseError"
  | interrupted .. => "StreamInterruptedError"
  | timedOut .. => "StreamTimeoutError"

/-- The text of a failure. -/
def text : ChatFailure → String
  | general text _ | unencodable text _ => text
  | connectionFailed text => text
  | serverStatus status body => "server returned " ++ toString status ++ ": " ++ body
  | serverReported text => text
  | emptyReply text => text
  | interrupted text _ => text
  | timedOut text _ => text

/-- The problems of the record that a failure is about. -/
def problems : ChatFailure → List Problem
  | general _ problems | unencodable _ problems => problems
  | _ => []

end ChatFailure

/-- How a connection fails. -/
inductive TransportKind
  | httpError
  | requestError
  | transportError
  | timeoutException
  | connectTimeout
  | readTimeout
  | writeTimeout
  | poolTimeout
  | networkError
  | connectError
  | readError
  | writeError
  | closeError
  | protocolError
  | localProtocolError
  | remoteProtocolError
  | proxyError
  | unsupportedProtocol
  | decodingError
  | tooManyRedirects
  deriving Repr, DecidableEq

namespace TransportKind

/-- All kinds. -/
def all : List TransportKind := [
  httpError, requestError, transportError, timeoutException, connectTimeout, readTimeout,
  writeTimeout, poolTimeout, networkError, connectError, readError, writeError, closeError,
  protocolError, localProtocolError, remoteProtocolError, proxyError, unsupportedProtocol,
  decodingError, tooManyRedirects]

/-- The name of a kind. -/
def name : TransportKind → String
  | httpError => "HTTPError"
  | requestError => "RequestError"
  | transportError => "TransportError"
  | timeoutException => "TimeoutException"
  | connectTimeout => "ConnectTimeout"
  | readTimeout => "ReadTimeout"
  | writeTimeout => "WriteTimeout"
  | poolTimeout => "PoolTimeout"
  | networkError => "NetworkError"
  | connectError => "ConnectError"
  | readError => "ReadError"
  | writeError => "WriteError"
  | closeError => "CloseError"
  | protocolError => "ProtocolError"
  | localProtocolError => "LocalProtocolError"
  | remoteProtocolError => "RemoteProtocolError"
  | proxyError => "ProxyError"
  | unsupportedProtocol => "UnsupportedProtocol"
  | decodingError => "DecodingError"
  | tooManyRedirects => "TooManyRedirects"

/-- Whether the connection failed because something took too long. -/
def isTimeout : TransportKind → Bool
  | timeoutException | connectTimeout | readTimeout | writeTimeout | poolTimeout => true
  | _ => false

end TransportKind

/-- What a failure that nobody expects tells about the surroundings of a chat. -/
inductive Fault
  /-- The input has ended. -/
  | endOfInput
  /-- What runs the program is in no state to go on. -/
  | machinery
  | other
  deriving Repr, DecidableEq

/-- How the program is asked to stop. -/
inductive StopRequest
  /-- The user interrupts it. -/
  | interrupt
  /-- It is told to exit, perhaps with a last word. -/
  | exit
  deriving Repr, DecidableEq

/-- Anything that can go wrong. -/
inductive Failure
  | chat (failure : ChatFailure)
  | transport (kind : TransportKind) (text : String)
  /-- A deadline passed. -/
  | deadline (text : String)
  /-- The address cannot be sent to. -/
  | address (error : Wire.TargetError)
  /-- A header value cannot be sent. -/
  | header (text : String)
  /-- A failure that nobody expects, under the name of its kind. -/
  | unexpected (fault : Fault) (kind text : String)
  /-- The user or the system asks the program to stop. -/
  | stop (request : StopRequest) (kind text : String)
  deriving Repr, DecidableEq

namespace Failure

/-- The name of a kind of failure. -/
def name : Failure → String
  | chat failure => failure.name
  | transport kind _ => kind.name
  | deadline _ => "TimeoutError"
  | address _ => "InvalidURL"
  | header _ => "UnicodeEncodeError"
  | unexpected _ kind _ => kind
  | stop _ kind _ => kind

/-- The text of a failure. -/
def text : Failure → String
  | chat failure => failure.text
  | transport _ text => text
  | deadline text => text
  | address error => error.message
  | header text => text
  | unexpected _ _ text => text
  | stop _ _ text => text

/-- The text of a failure, or its name if it has none. -/
def described (failure : Failure) : String :=
  if failure.text.isEmpty then failure.name else failure.text

/-- Whether the failure asks the program to stop. -/
def isStop : Failure → Bool
  | stop .. => true
  | _ => false

/-- The failure that an error of a codec is. -/
def undecodable (error : Wire.CodecError) : Failure :=
  unexpected .other error.kind error.text

/-- The failure that a cancelled request counts as. -/
def cancelled : Failure :=
  chat (.interrupted "request cancelled" "")

end Failure

end Parley
