import Parley.Number.Read
import Parley.Text.Quoted
import Parley.Wire.Codec
import Parley.Wire.HostName

/-!
# The address on the wire

The address of a request is taken apart, each part is checked and written in its
wire form, and the parts are put together again: the scheme and the host in
lower case, the default port left out, dot segments resolved, and characters
that a part does not allow written as percent codes.  The form of a host name beyond ASCII
is the platform's.
-/

namespace Parley.Wire

/-- Why an address cannot be sent to. -/
inductive TargetError
  | tooLong
  | unprintable (c : Char) (position : Nat)
  | badPort (port : String)
  | badIPv4 (host : String)
  | badIPv6 (host : String)
  | badName (host : String)
  | badPath
  | badRelative (start : String)
  deriving Repr, DecidableEq

namespace TargetError

/-- The sentence that says why. -/
def message : TargetError → String
  | tooLong => "URL too long"
  | unprintable c position =>
      "Invalid non-printable ASCII character in URL, " ++ Text.quoted (String.singleton c) ++
        " at position " ++ toString position ++ "."
  | badPort port => "Invalid port: " ++ Text.quoted port
  | badIPv4 host => "Invalid IPv4 address: " ++ Text.quoted host
  | badIPv6 host => "Invalid IPv6 address: " ++ Text.quoted host
  | badName host => "Invalid IDNA hostname: " ++ Text.quoted host
  | badPath => "For absolute URLs, path must be empty or begin with '/'"
  | badRelative start => "Relative URLs cannot have a path starting with " ++ Text.quoted start

end TargetError

namespace Target

/-- The parts of an address as they are written. -/
structure Parts where
  scheme : List Char
  authority : List Char
  path : List Char
  query : Option (List Char)
  fragment : Option (List Char)
  deriving Repr, DecidableEq

/-- The longest address. -/
def maxLength : Nat := 65536

/-- Whether a character may stand in a scheme after its first letter. -/
def isSchemeChar (c : Char) : Bool :=
  c.isAlphanum || c == '+' || c == '.' || c == '-'

/-- The scheme that an address starts with, and the rest behind the colon. -/
def takeScheme (s : List Char) : List Char × List Char :=
  match s with
  | ':' :: rest => ([], rest)
  | first :: rest =>
      let name := rest.takeWhile isSchemeChar
      match first.isAlpha, rest.drop name.length with
      | true, ':' :: others => (first :: name, others)
      | _, _ => ([], s)
  | [] => ([], [])

/-- The text up to a mark, and what follows it. -/
def cutAt (mark : Char) (s : List Char) : List Char × Option (List Char) :=
  let before := s.takeWhile (· != mark)
  match s.drop before.length with
  | [] => (before, none)
  | _ :: after => (before, some after)

/-- Takes an address apart. -/
def parts (s : List Char) : Parts :=
  let (scheme, rest) := takeScheme s
  let (rest, fragment) := cutAt '#' rest
  let (rest, query) := cutAt '?' rest
  match rest with
  | '/' :: '/' :: others =>
      let authority := others.takeWhile (· != '/')
      ⟨scheme, authority, others.drop authority.length, query, fragment⟩
  | path => ⟨scheme, [], path, query, fragment⟩

/-- The user, the host and the port of an authority. -/
def splitAuthority (s : List Char) : List Char × List Char × List Char :=
  let fromBack := s.reverse.takeWhile (· != '@')
  let rest := fromBack.reverse
  let user := (s.take (s.length - rest.length)).dropLast
  let bracketed := (rest.reverse.dropWhile (· != ']')).reverse
  let host :=
    if rest.head? = some '[' && !bracketed.isEmpty then bracketed
    else rest.takeWhile (· != ':')
  let port :=
    match rest.drop host.length with
    | ':' :: digits => digits
    | others => others
  (user, host, port)

/-- A digit of the code of a byte. -/
def codeDigit (n : Nat) : Char :=
  (Text.hexDigit n).toUpper

/-- The percent code of a character. -/
def percentCode (c : Char) : List Char :=
  (Utf8.encodeChar c).flatMap fun byte =>
    ['%', codeDigit (byte.toNat / 16), codeDigit (byte.toNat % 16)]

/-- Writes the characters that are not allowed as percent codes. -/
def encodePart (isAllowed : Char → Bool) (s : List Char) : List Char :=
  s.flatMap fun c => if isAllowed c then [c] else percentCode c

/-- The printable ASCII characters without some. -/
def asciiExcept (excluded : String) (c : Char) : Bool :=
  0x20 < c.toNat && c.toNat < 0x7F && !excluded.toList.contains c

/-- The characters that stand for themselves in a fragment. -/
def isFragmentChar : Char → Bool :=
  asciiExcept "\"<>\x60"

/-- The characters that stand for themselves in a query. -/
def isQueryChar : Char → Bool :=
  asciiExcept "\"#<>"

/-- The characters that stand for themselves in a path. -/
def isPathChar : Char → Bool :=
  asciiExcept "\"#<>?\x60\x7b\x7d"

/-- The characters that stand for themselves in the user part. -/
def isUserChar : Char → Bool :=
  asciiExcept "\"#<>?\x60\x7b\x7d/;=@[\\]^|"

/-- The characters that stand for themselves in a host name. -/
def isHostChar (c : Char) : Bool :=
  c.isAlphanum || "-._~!$&'()*+,;=\"\x60\x7b\x7d%|\\".toList.contains c

/-- The wire form of a host. -/
def encodeHost [Platform] (host : List Char) : Except TargetError (List Char) :=
  let text := String.ofList host
  if host.isEmpty then .ok []
  else if HostName.looksNumeric host then
    if HostName.isIPv4 host then .ok host else .error (.badIPv4 text)
  else if host.head? = some '[' && host.getLast? = some ']' && 1 < host.length then
    let inner := (host.drop 1).dropLast
    if HostName.isIPv6 inner then .ok inner else .error (.badIPv6 text)
  else if host.all fun c => c.toNat < 0x80 then
    .ok (encodePart isHostChar (host.map Char.toLower))
  else (Platform.hostName? host).elim (.error (.badName text)) .ok

/-- The port that a scheme uses by default. -/
def defaultPort? (scheme : String) : Option Int :=
  if scheme = "http" || scheme = "ws" then some 80
  else if scheme = "https" || scheme = "wss" then some 443
  else if scheme = "ftp" then some 21
  else none

/-- Reads a whole number as ports are written: spaces around it, a sign, and
underscores between digits are allowed. -/
def readPort? (s : List Char) : Option Int :=
  match dropDigitSeparators none ((stripSpaces s).map asciiDigit) with
  | some digits =>
      let (negative, magnitude) := spanSign digits
      if !magnitude.isEmpty && magnitude.all Char.isDigit && magnitude.length ≤ 4300 then
        some (if negative then -(digitsValue magnitude : Int) else digitsValue magnitude)
      else none
  | none => none

/-- The port that is written, unless it is the default of the scheme. -/
def encodePort (scheme port : List Char) : Except TargetError (Option Int) :=
  if port.isEmpty then .ok none
  else
    match readPort? port with
    | none => .error (.badPort (String.ofList port))
    | some number =>
        .ok (if defaultPort? (String.ofList scheme) = some number then none else some number)

/-- Resolves the dot segments of a path, given the segments kept so far in
reverse order.  The empty segment before the first slash stays. -/
def resolveAfter (kept : List (List Char)) : List (List Char) → List (List Char)
  | [] => kept.reverse
  | segment :: others =>
      if segment = ['.'] then resolveAfter kept others
      else if segment = ['.', '.'] then
        resolveAfter (if kept = [[]] then kept else kept.drop 1) others
      else resolveAfter (segment :: kept) others

/-- A path without dot segments. -/
def resolvePath (path : List Char) : List Char :=
  ['/'].intercalate (resolveAfter [] (HostName.splitAt '/' path))

/-- The first control character of an address, with its position. -/
def firstControl? (s : List Char) : Option (Char × Nat) :=
  (s.zipIdx.find? fun entry => entry.1.toNat < 0x20 || entry.1.toNat = 0x7F)

/-- An address in its wire form, put together from its parts. -/
def assemble (scheme user host : List Char) (port : Option Int) (path : List Char)
    (query fragment : Option (List Char)) : List Char :=
  let authority :=
    (if user.isEmpty then [] else user ++ ['@']) ++
      (if host.contains ':' then '[' :: host ++ [']'] else host) ++
      (match port with
        | some number => ':' :: (toString number).toList
        | none => [])
  (if scheme.isEmpty then [] else scheme ++ [':']) ++
    (if authority.isEmpty then [] else '/' :: '/' :: authority) ++ path ++
    (match query with
      | some text => '?' :: text
      | none => []) ++
    (match fragment with
      | some text => '#' :: text
      | none => [])

/-- Whether the path may follow the authority that was found. -/
def checkPath (hasScheme hasAuthority : Bool) (path : List Char) : Except TargetError Unit :=
  if hasAuthority then
    if path.isEmpty || path.head? = some '/' then .ok () else .error .badPath
  else if hasScheme then .ok ()
  else if ['/', '/'].isPrefixOf path then .error (.badRelative "//")
  else if path.head? = some ':' then .error (.badRelative ":")
  else .ok ()

/-- The wire form of an address.  An address without scheme or host is taken as a
path. -/
def ofAddress [Platform] (url : String) : Except TargetError String :=
  let s := url.toList
  if maxLength < s.length then .error .tooLong
  else
    match firstControl? s with
    | some (c, position) => .error (.unprintable c position)
    | none => do
        let found := parts s
        let (user, host, port) := splitAuthority found.authority
        let wireHost ← encodeHost host
        let wirePort ← encodePort found.scheme port
        let wireUser := encodePart isUserChar user
        let hasAuthority := !wireUser.isEmpty || !wireHost.isEmpty || wirePort.isSome
        let hasScheme := !found.scheme.isEmpty
        checkPath hasScheme hasAuthority found.path
        let path := if hasScheme || hasAuthority then resolvePath found.path else found.path
        return String.ofList <| assemble (found.scheme.map Char.toLower) wireUser wireHost wirePort
          (encodePart isPathChar path) (found.query.map (encodePart isQueryChar))
          (found.fragment.map (encodePart isFragmentChar))

end Target

end Parley.Wire
