import Parley.Markdown.Entity
import Parley.Wire.HostName
import Parley.Wire.Utf8

/-!
# Addresses of links

An address is written so that it may stand in an escape sequence: what is neither
a letter, a digit nor one of a few marks is percent-encoded, and the host of a
web or mail address takes its ASCII form.  Addresses that could run code are
refused.
-/

namespace Parley.Markdown.Address

/-- Two upper-case hexadecimal digits behind a percent sign. -/
def percentCode (n : Nat) : List Char :=
  '%' :: (Text.hexDigits 2 n).map Char.toUpper

/-- The characters that stay as they are, besides letters and digits. -/
def keptMarks : List Char := ";/?:@&=+$,-_.!~*'()#".toList

/-- Whether a text starts with two hexadecimal digits. -/
def startsWithCode (s : List Char) : Bool :=
  match s with
  | a :: b :: _ => (digitOf? 16 a).isSome && (digitOf? 16 b).isSome
  | _ => false

/-- Percent-encodes a text; codes in it stay. -/
def encode : List Char → List Char
  | [] => []
  | c :: rest =>
      if c = '%' && startsWithCode rest || c.isAlphanum || keptMarks.contains c then
        c :: encode rest
      else (Wire.Utf8.encodeChar c).flatMap (fun byte => percentCode byte.toNat) ++ encode rest

/-! ## Hosts -/

/-- Whether a character may stand in a scheme. -/
def isSchemeChar (c : Char) : Bool :=
  c.isAlphanum || c == '.' || c == '+' || c == '-'

/-- A text after a scheme and its colon, with the scheme in lower case; without one,
the scheme is empty. -/
def splitScheme (s : List Char) : List Char × List Char :=
  let scheme := s.takeWhile isSchemeChar
  match scheme, s.drop scheme.length with
  | _ :: _, ':' :: _ => (scheme, s.drop (scheme.length + 1))
  | _, _ => ([], s)

/-- The characters that end a host. -/
def hostEnds : List Char := "%/?;#'\x7b\x7d|\\^\x60<>\" \r\n\t".toList

/-- The part after the last sign `@`, and the length of what is before it. -/
def afterUser (s : List Char) : List Char :=
  (s.reverse.takeWhile (· != '@')).reverse

/-- A host whose labels have their ASCII form; all its stops are written alike. -/
def asciiHost (host : List Char) : List Char :=
  let stops := host.map fun c => if Wire.HostName.isStop c then '.' else c
  if host.all fun c => c.toNat < 0x80 then host
  else
    ['.'].intercalate ((Wire.HostName.splitAt '.' stops).map fun label =>
      if label.all fun c => c.toNat < 0x80 then label else Wire.HostName.asciiLabel label)

/-- Writes the host at the start of what follows a scheme, if there is one, in its
ASCII form. -/
def encodeHost (s : List Char) : List Char :=
  let authority := s.takeWhile fun c => c != '/' && c != '?' && c != '#'
  let user := authority.length - (afterUser authority).length
  let rest := s.drop user
  let host := rest.takeWhile fun c => !hostEnds.contains c && c != ':'
  s.take user ++ asciiHost host ++ rest.drop host.length

/-- The schemes whose hosts take their ASCII form. -/
def hostSchemes : List String := ["", "http", "https", "mailto"]

/-- The address with its host in ASCII form. -/
def recodeHost (s : List Char) : List Char :=
  let (scheme, rest) := splitScheme s
  let lead := s.take (s.length - rest.length)
  let name := String.ofList (scheme.map Char.toLower)
  match hostSchemes.contains name, rest with
  | true, '/' :: '/' :: after => lead ++ '/' :: '/' :: encodeHost after
  | true, _ => if name = "mailto" then lead ++ encodeHost rest else s
  | false, _ => s

/-- The address as it stands in an escape sequence. -/
def normalize (s : List Char) : String :=
  String.ofList (encode (recodeHost (Text.strip s)))

/-! ## Refused addresses -/

/-- Schemes that could run code or show what is not on the net. -/
def refusedSchemes : List String := ["vbscript:", "javascript:", "file:", "data:"]

/-- Pictures that may be written into an address. -/
def allowedData : List String :=
  ["data:image/gif;", "data:image/png;", "data:image/jpeg;", "data:image/webp;"]

/-- Whether a link may lead to an address. -/
def isAllowed (address : String) : Bool :=
  let lower := String.ofList ((Text.strip address.toList).map Char.toLower)
  !(refusedSchemes.any (Text.startsWith lower)) || allowedData.any (Text.startsWith lower)

/-- The address of a written destination, unless it is refused. -/
def ofDestination? (s : List Char) : Option String :=
  let address := normalize s
  if isAllowed address then some address else none

/-! ## Addresses as text -/

/-- The characters whose codes stay in the text of an address. -/
def codedMarks : List Char := ";/?:@&=+$,#%".toList

/-- The characters of one coded sequence of bytes: those of ASCII stay coded if they
would change the meaning of the address. -/
def decodeBytes (bytes : List UInt8) : List Char :=
  (Wire.Utf8.decode bytes).toList.flatMap fun c =>
    if codedMarks.contains c then percentCode c.toNat else [c]

/-- Decodes percent codes, given the bytes of the current sequence backwards and how
many characters are part of a code that was read. -/
def decodeAfter (bytes : List UInt8) (skip : Nat) : List Char → List Char
  | [] => decodeBytes bytes.reverse
  | c :: rest =>
      match skip with
      | more + 1 => decodeAfter bytes more rest
      | 0 =>
          if c = '%' && startsWithCode rest then
            decodeAfter (UInt8.ofNat (valueOf 16 (rest.take 2)) :: bytes) 2 rest
          else decodeBytes bytes.reverse ++ c :: decodeAfter [] 0 rest

/-- The text that is shown for a bare address. -/
def shown (s : List Char) : List Char :=
  decodeAfter [] 0 (Text.strip s)

end Parley.Markdown.Address
