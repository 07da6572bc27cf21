import Parley.Json.Value
import Parley.Number.Read

/-!
# Reading JSON

The reader takes exactly one value with white space around it.  Beyond the
standard it knows the bare words for infinity and for no number; it refuses
control characters and unpaired surrogates in strings, numbers with too many
digits before the point, and too many containers inside one another.

Strings are read by a machine with one step a character, so that what is read
of a text is a structural recursion on it.  Containers nest, so values are read
with a budget of steps; `read` computes one that always suffices.
-/

namespace Parley.Json

/-- The white space between tokens. -/
def isSpace (c : Char) : Bool :=
  c == ' ' || c == '\t' || c == '\n' || c == '\r'

/-- Drops leading white space. -/
def skipSpace (s : List Char) : List Char :=
  s.dropWhile isSpace

/-- The value of a hexadecimal digit in either letter case. -/
def hexValue? (c : Char) : Option Nat :=
  if c.isDigit then some (c.toNat - 48)
  else if 'a' ≤ c && c ≤ 'f' then some (c.toNat - 87)
  else if 'A' ≤ c && c ≤ 'F' then some (c.toNat - 55)
  else none

/-- Where the string reader stands. -/
inductive StringState
  /-- Between characters. -/
  | plain
  /-- After a backslash. -/
  | escape
  /-- Inside a code of four digits, `left` of which are still to come; `high` is
  the surrogate that the code has to complete. -/
  | code (high : Option Nat) (left value : Nat)
  /-- After a leading surrogate, before the backslash of the trailing one. -/
  | trailSlash (high : Nat)
  /-- After that backslash. -/
  | trailLetter (high : Nat)
  deriving Repr, DecidableEq

/-- Whether a code unit is a leading surrogate. -/
def isLeading (n : Nat) : Bool := 0xD800 ≤ n && n < 0xDC00

/-- Whether a code unit is a trailing surrogate. -/
def isTrailing (n : Nat) : Bool := 0xDC00 ≤ n && n < 0xE000

/-- The character that a pair of surrogates encodes. -/
def pairedChar (high low : Nat) : Char :=
  Char.ofNat (0x10000 + (high - 0xD800) * 0x400 + (low - 0xDC00))

/-- The character that stands for itself or for a control after a backslash. -/
def escapedChar? (c : Char) : Option Char :=
  if c = '"' || c = '\\' || c = '/' then some c
  else if c = 'b' then some '\x08'
  else if c = 'f' then some '\x0c'
  else if c = 'n' then some '\n'
  else if c = 'r' then some '\r'
  else if c = 't' then some '\t'
  else none

/-- What a complete code of four digits gives: a character, or the state that
waits for the other half of a pair. -/
inductive CodeResult
  | char (c : Char)
  | wait (high : Nat)
  | bad
  deriving Repr, DecidableEq

/-- Judges a complete code unit. -/
def codeResult (high : Option Nat) (value : Nat) : CodeResult :=
  match high with
  | none =>
      if isLeading value then .wait value
      else if isTrailing value then .bad
      else .char (Char.ofNat value)
  | some h => if isTrailing value then .char (pairedChar h value) else .bad

/-- Puts a character before the characters that a reader found. -/
def consRead (c : Char) : Option (List Char × List Char) → Option (List Char × List Char) :=
  Option.map fun found => (c :: found.1, found.2)

/-- Reads the characters of a string up to its closing quote, and gives what
follows that. -/
def readChars : StringState → List Char → Option (List Char × List Char)
  | _, [] => none
  | .plain, c :: rest =>
      if c = '"' then some ([], rest)
      else if c = '\\' then readChars .escape rest
      else if c.toNat < 0x20 then none
      else consRead c (readChars .plain rest)
  | .escape, c :: rest =>
      if c = 'u' then readChars (.code none 4 0) rest
      else
        match escapedChar? c with
        | some d => consRead d (readChars .plain rest)
        | none => none
  | .code high left value, c :: rest =>
      match hexValue? c with
      | none => none
      | some digit =>
          if left ≤ 1 then
            match codeResult high (16 * value + digit) with
            | .char d => consRead d (readChars .plain rest)
            | .wait h => readChars (.trailSlash h) rest
            | .bad => none
          else readChars (.code high (left - 1) (16 * value + digit)) rest
  | .trailSlash high, c :: rest =>
      if c = '\\' then readChars (.trailLetter high) rest else none
  | .trailLetter high, c :: rest =>
      if c = 'u' then readChars (.code (some high) 4 0) rest else none

/-- Removes a given word from the front of a text. -/
def dropWord (word s : List Char) : Option (List Char) :=
  if word.isPrefixOf s then some (s.drop word.length) else none

/-- Digits after a point or in a power of ten: at least one. -/
def spanSomeDigits (s : List Char) : Option (List Char × List Char) :=
  let digits := spanDigits s
  if digits.1.isEmpty then none else some digits

/-- The power of ten of a number, if there is one. -/
def readExponent (s : List Char) : Option (Option Int × List Char) :=
  match s with
  | c :: rest =>
      if c = 'e' || c = 'E' then
        let signed := spanSign rest
        (spanSomeDigits signed.2).map fun digits =>
          let n : Int := digitsValue digits.1
          (some (if signed.1 then -n else n), digits.2)
      else some (none, s)
  | [] => some (none, s)

/-- The fraction of a number, if there is one. -/
def readFraction (s : List Char) : Option (Option (List Char) × List Char) :=
  match s with
  | '.' :: rest => (spanSomeDigits rest).map fun digits => (some digits.1, digits.2)
  | _ => some (none, s)

/-- The characters that the whole part of a number may have, with its sign. -/
def maxDigits : Nat := 4300

/-- Reads a number without its sign.  A leading zero stands alone. -/
def readUnsignedNumber (negative : Bool) (s : List Char) : Option (Json × List Char) :=
  match spanSomeDigits s with
  | none => none
  | some (whole, afterWhole) =>
      if whole.head? = some '0' && 1 < whole.length then none
      else if maxDigits < negative.toNat + whole.length then none
      else
        match readFraction afterWhole with
        | none => none
        | some (fraction, afterFraction) =>
            match readExponent afterFraction with
            | none => none
            | some (power, rest) =>
                if fraction.isNone && power.isNone then
                  let n : Int := digitsValue whole
                  some (.integer (if negative then -n else n), rest)
                else
                  let places := fraction.getD []
                  some (.float (Binary64.ofDecimal negative (digitsValue (whole ++ places))
                    (power.getD 0 - places.length)), rest)

/-- The bare word for infinity. -/
def infinityWord : List Char := "Infinity".toList

/-- Reads a number with its sign. -/
def readJsonNumber (s : List Char) : Option (Json × List Char) :=
  match s with
  | '-' :: rest =>
      match dropWord infinityWord rest with
      | some after => some (.float (.infinite true), after)
      | none => readUnsignedNumber true rest
  | _ => readUnsignedNumber false s

/-- Reads a bare word or a number. -/
def readScalar (s : List Char) : Option (Json × List Char) :=
  match dropWord "null".toList s with
  | some rest => some (.null, rest)
  | none =>
      match dropWord "true".toList s with
      | some rest => some (.bool true, rest)
      | none =>
          match dropWord "false".toList s with
          | some rest => some (.bool false, rest)
          | none =>
              match dropWord "NaN".toList s with
              | some rest => some (.float .nan, rest)
              | none =>
                  match dropWord infinityWord s with
                  | some rest => some (.float (.infinite false), rest)
                  | none => readJsonNumber s

/-- Reads a string whose opening quote has been read. -/
def readStringTail (s : List Char) : Option (String × List Char) :=
  (readChars .plain s).map fun found => (String.ofList found.1, found.2)

mutual

/-- Reads a value in which at most `depth` containers stand inside one another, those
without contents aside.  The budget `fuel` has to exceed the length of the text. -/
def readValue : Nat → Nat → List Char → Option (Json × List Char)
  | 0, _, _ => none
  | fuel + 1, depth, s =>
      match skipSpace s with
      | [] => none
      | '"' :: rest => (readStringTail rest).map fun found => (.string found.1, found.2)
      | '[' :: rest =>
          match skipSpace rest with
          | ']' :: after => some (.array [], after)
          | _ =>
              match depth with
              | 0 => none
              | depth + 1 =>
                  (readItems fuel depth rest).map fun found => (.array found.1, found.2)
      | '{' :: rest =>
          match skipSpace rest with
          | '}' :: after => some (.object [], after)
          | _ =>
              match depth with
              | 0 => none
              | depth + 1 =>
                  (readMembers fuel depth [] rest).map fun found => (.object found.1, found.2)
      | other => readScalar other

/-- Reads the items of an array up to its closing bracket. -/
def readItems : Nat → Nat → List Char → Option (List Json × List Char)
  | 0, _, _ => none
  | fuel + 1, depth, s =>
      match readValue fuel depth s with
      | none => none
      | some (item, afterItem) =>
          match skipSpace afterItem with
          | ']' :: rest => some ([item], rest)
          | ',' :: rest =>
              (readItems fuel depth rest).map fun found => (item :: found.1, found.2)
          | _ => none

/-- Reads the members of an object up to its closing brace, after those given. -/
def readMembers :
    Nat → Nat → List (String × Json) → List Char → Option (List (String × Json) × List Char)
  | 0, _, _, _ => none
  | fuel + 1, depth, before, s =>
      match skipSpace s with
      | '"' :: afterQuote =>
          match readStringTail afterQuote with
          | none => none
          | some (name, afterName) =>
              match skipSpace afterName with
              | ':' :: afterColon =>
                  match readValue fuel depth afterColon with
                  | none => none
                  | some (value, afterValue) =>
                      match skipSpace afterValue with
                      | '}' :: rest => some (insertMember name value before, rest)
                      | ',' :: rest =>
                          readMembers fuel depth (insertMember name value before) rest
                      | _ => none
              | _ => none
      | _ => none

end

/-- The containers with contents that may stand inside one another in text from a
server. -/
def maxDepth : Nat := 200

/-- Reads a text that holds exactly one value. -/
def readWithin (depth : Nat) (s : List Char) : Option Json :=
  match readValue (s.length + 1) depth s with
  | some (value, rest) => if (skipSpace rest).isEmpty then some value else none
  | none => none

/-- Reads a text that holds exactly one value, nested no deeper than `maxDepth`. -/
def read (s : String) : Option Json :=
  readWithin maxDepth s.toList

end Parley.Json
