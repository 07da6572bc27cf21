import Parley.Text.Blank

/-!
# Server addresses

An address is given with or without a scheme and with any number of slashes at
the end.  Its normal form has exactly one scheme and no slash at the end.
-/

namespace Parley

/-- Why an address is refused. -/
inductive AddressError
  | unsupportedScheme (scheme : String)
  | noHost
  deriving Repr, DecidableEq

namespace AddressError

/-- The sentence that says why. -/
def message : AddressError → String
  | unsupportedScheme scheme => "unsupported scheme '" ++ scheme ++ "' (use http or https)"
  | noHost => "server address must include a host"

end AddressError

namespace Address

/-- What stands between a scheme and the rest. -/
def schemeMark : List Char := [':', '/', '/']

/-- The characters of a scheme after the first letter. -/
def isSchemeChar (c : Char) : Bool :=
  c.isAlpha || c.isDigit || c == '+' || c == '.' || c == '-'

/-- The scheme that a text starts with: a letter, then scheme characters, then
the scheme mark. -/
def scheme? (s : List Char) : Option (List Char) :=
  match s with
  | first :: rest =>
      let name := rest.takeWhile isSchemeChar
      if first.isAlpha && schemeMark.isPrefixOf (rest.drop name.length) then some (first :: name)
      else none
  | [] => none

/-- What follows the first scheme mark of a text. -/
def afterMark : List Char → List Char
  | [] => []
  | c :: rest =>
      if schemeMark.isPrefixOf (c :: rest) then (c :: rest).drop schemeMark.length
      else afterMark rest

/-- The scheme that addresses without one get. -/
def defaultScheme : List Char := "http".toList

/-- Whether the scheme is one that the client speaks. -/
def isSupported (scheme : List Char) : Bool :=
  let lower := scheme.map Char.toLower
  lower == "http".toList || lower == "https".toList

/-- Removes the slashes at the end. -/
def dropSlashes (s : List Char) : List Char :=
  Text.dropTailWhile (· == '/') s

/-- An address with its scheme, without slashes at the end, if it has a host. -/
def finish (s : List Char) : Except AddressError (List Char) :=
  let trimmed := dropSlashes s
  if (afterMark trimmed).isEmpty then .error .noHost else .ok trimmed

/-- The normal form of an address, as characters. -/
def normalizeChars (s : List Char) : Except AddressError (List Char) :=
  let stripped := Text.strip s
  match scheme? stripped with
  | none => finish (defaultScheme ++ schemeMark ++ stripped)
  | some scheme =>
      if isSupported scheme then finish stripped
      else .error (.unsupportedScheme (String.ofList scheme))

/-- The normal form of an address: one scheme, no slash at the end. -/
def normalize (s : String) : Except AddressError String :=
  (normalizeChars s.toList).map String.ofList

end Address

end Parley
