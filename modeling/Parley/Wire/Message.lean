import Parley.Exchange.Request

/-!
# Messages on the wire

A request travels as a head of lines and a body, and so does an answer.  The body of
an answer is as long as its head says, or comes in pieces that each tell their
length, or lasts until the connection ends.
-/

namespace Parley.Wire

/-- Where a request goes. -/
structure Destination where
  isSecret : Bool
  authority : String
  host : String
  port : Nat
  /-- The path and the query. -/
  path : String
  deriving Repr, DecidableEq

/-- The destination of a request. -/
def Destination.ofUrl (url : String) : Destination :=
  let found := Target.parts url.toList
  let (user, host, port) := Target.splitAuthority found.authority
  let scheme := String.ofList found.scheme
  let standard := ((Target.defaultPort? scheme).getD 80).toNat
  let query := (found.query.map fun text => '?' :: text).getD []
  { isSecret := scheme == "https"
    authority := String.ofList (if user.isEmpty then found.authority
      else found.authority.drop (user.length + 1))
    host := String.ofList (host.filter fun c => c != '[' && c != ']')
    port := (String.ofList port).toNat?.getD standard
    path := String.ofList ((if found.path.isEmpty then ['/'] else found.path) ++ query) }

namespace Message

/-- The mark at the end of a line. -/
def lineEnd : List Byte := [13, 10]

/-- The header for the session key. -/
def sessionHeader : String := "X-Session-Key"

/-- A request as it travels. -/
def ofRequest (request : SentRequest) : List Byte :=
  let destination := Destination.ofUrl request.url
  let body := Utf8.encode request.body.toList
  let lines :=
    [request.method ++ " " ++ destination.path ++ " HTTP/1.1", "Host: " ++ destination.authority,
      "Content-Type: " ++ request.contentType, "Content-Length: " ++ toString body.length,
      "Connection: close"] ++
    request.sessionKey.toList.map fun key => sessionHeader ++ ": " ++ key
  (lines.flatMap fun line => Utf8.encode line.toList ++ lineEnd) ++ lineEnd ++ body

/-- The bytes before the first line end, and those after it. -/
def takeLine : List Byte → Option (List Byte × List Byte)
  | 13 :: 10 :: rest => some ([], rest)
  | byte :: rest => (takeLine rest).map fun found => (byte :: found.1, found.2)
  | [] => none

/-- The lines up to an empty one, and what follows it.  Every line takes a step. -/
def takeHead : Nat → List Byte → Option (List String × List Byte)
  | 0, _ => none
  | steps + 1, data =>
      match takeLine data with
      | none => none
      | some ([], rest) => some ([], rest)
      | some (line, rest) =>
          (takeHead steps rest).map fun found => (Utf8.decode line :: found.1, found.2)

/-- The value of a header. -/
def header? (name : String) (head : List String) : Option String :=
  head.findSome? fun line =>
    let label := line.toList.takeWhile (· != ':')
    if String.ofList (lowerAscii label) = name then
      some (Text.stripText (String.ofList (line.toList.drop (label.length + 1))))
    else none

/-- The status in the first line of a head. -/
def status? (head : List String) : Option Int :=
  match head with
  | [] => none
  | line :: _ => ((Text.words line.toList)[1]?).bind fun word => (String.ofList word).toInt?

/-- The value of a hexadecimal digit. -/
def hexDigit? (c : Char) : Option Nat :=
  if c.isDigit then some (c.toNat - 48)
  else if 'a' ≤ c.toLower && c.toLower ≤ 'f' then some (c.toLower.toNat - 87)
  else none

/-- The length that the line before a piece tells. -/
def pieceLength? (line : List Byte) : Option Nat :=
  match (Utf8.decode line).toList.takeWhile fun c => (hexDigit? c).isSome with
  | [] => none
  | digits => some (digits.foldl (fun n c => n * 16 + (hexDigit? c).getD 0) 0)

/-- The failure of a body that ends too early. -/
def brokenOff : Arrival Byte :=
  .failure (.transport .remoteProtocolError
    "peer closed connection without sending complete message body")

/-- A body that comes in pieces.  Every piece takes a step. -/
def pieces : Nat → List Byte → List (Arrival Byte)
  | 0, _ => [brokenOff]
  | steps + 1, data =>
      match takeLine data with
      | none => [brokenOff]
      | some (line, rest) =>
          match pieceLength? line with
          | none => [brokenOff]
          | some 0 => []
          | some length =>
              .piece (rest.take length) ::
                if rest.length < length + 2 then [brokenOff]
                else pieces steps (rest.drop (length + 2))

/-- A body whose head is known. -/
def body (head : List String) (data : List Byte) : List (Arrival Byte) :=
  let coding := (header? "transfer-encoding" head).map fun value => lowerAscii value.toList
  if coding = some "chunked".toList then
    pieces (data.length + 1) data
  else
    match (header? "content-length" head).bind String.toNat? with
    | none => [.piece data]
    | some length =>
        .piece (data.take length) :: if data.length < length then [brokenOff] else []

/-- The answer in what arrived on a connection that has ended. -/
def answer (data : List Byte) : Answer :=
  match takeHead (data.length + 1) data with
  | none =>
      .failure (.transport .remoteProtocolError "Server disconnected without sending a response.")
  | some (head, rest) =>
      match status? head with
      | none => .failure (.transport .remoteProtocolError "illegal status line")
      | some status => .response status (header? "content-type" head) (body head rest)

end Message

end Parley.Wire
