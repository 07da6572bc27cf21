import Parley.Text.Blank
import Parley.Text.CellTable
import Parley.Number.Binary64

/-!
# Reading numbers

A number is written as an optional sign, digits with an optional point, and an
optional power of ten; or as one of the words for infinity and for a value that
is no number.  Two settings read numbers, and they differ in what they accept
around that grammar: `lenientNumber` takes the decimal digits of every script,
`fieldNumber` only the ASCII ones.
-/

namespace Parley

/-- The parts of a decimal literal. -/
structure DecimalLiteral where
  negative : Bool
  digits : Nat
  exponent : Int
  deriving Repr, DecidableEq

/-- The value of a digit. -/
def digitValue (c : Char) : Nat :=
  c.toNat - 48

/-- The value of a run of digits. -/
def digitsValue (s : List Char) : Nat :=
  s.foldl (fun n c => 10 * n + digitValue c) 0

/-- Splits off the leading digits. -/
def spanDigits (s : List Char) : List Char × List Char :=
  (s.takeWhile Char.isDigit, s.dropWhile Char.isDigit)

/-- Splits off a sign; the flag says whether it is a minus. -/
def spanSign : List Char → Bool × List Char
  | '-' :: rest => (true, rest)
  | '+' :: rest => (false, rest)
  | s => (false, s)

/-- The power of ten that ends a literal: nothing, or `e`, a sign and digits. -/
def readPower : List Char → Option Int
  | [] => some 0
  | c :: rest =>
      if c = 'e' || c = 'E' then
        let signed := spanSign rest
        let digits := spanDigits signed.2
        if digits.1.isEmpty || !digits.2.isEmpty then none
        else
          let n : Int := digitsValue digits.1
          some (if signed.1 then -n else n)
      else none

/-- The digits before and after an optional point, and what follows them. -/
def spanMantissa (s : List Char) : List Char × List Char × List Char :=
  let whole := spanDigits s
  match whole.2 with
  | '.' :: rest =>
      let fraction := spanDigits rest
      (whole.1, fraction.1, fraction.2)
  | rest => (whole.1, [], rest)

/-- Reads a decimal literal without its sign. -/
def readUnsigned (negative : Bool) (s : List Char) : Option DecimalLiteral :=
  match spanMantissa s with
  | (whole, fraction, rest) =>
      if whole.isEmpty && fraction.isEmpty then none
      else
        (readPower rest).map fun power =>
          ⟨negative, digitsValue (whole ++ fraction), power - fraction.length⟩

/-- The number that a literal stands for. -/
def DecimalLiteral.value (d : DecimalLiteral) : Binary64 :=
  Binary64.ofDecimal d.negative d.digits d.exponent

/-- A letter in lower case, for ASCII letters. -/
def lowerAscii (s : List Char) : List Char :=
  s.map Char.toLower

/-- Reads a number: a literal or a word, in any letter case. -/
def readNumber (s : List Char) : Option Binary64 :=
  let signed := spanSign s
  let word := String.ofList (lowerAscii signed.2)
  if word = "inf" || word = "infinity" then some (.infinite signed.1)
  else if word = "nan" then some .nan
  else (readUnsigned signed.1 signed.2).map DecimalLiteral.value

/-- The code points of the decimal digits beyond ASCII.  Each range holds runs of
the ten digits from zero to nine. -/
def decimalDigitRanges : List (Nat × Nat) := [
  (0x660, 0x669), (0x6F0, 0x6F9), (0x7C0, 0x7C9), (0x966, 0x96F), (0x9E6, 0x9EF), (0xA66, 0xA6F),
  (0xAE6, 0xAEF), (0xB66, 0xB6F), (0xBE6, 0xBEF), (0xC66, 0xC6F), (0xCE6, 0xCEF), (0xD66, 0xD6F),
  (0xDE6, 0xDEF), (0xE50, 0xE59), (0xED0, 0xED9), (0xF20, 0xF29), (0x1040, 0x1049),
  (0x1090, 0x1099), (0x17E0, 0x17E9), (0x1810, 0x1819), (0x1946, 0x194F), (0x19D0, 0x19D9),
  (0x1A80, 0x1A89), (0x1A90, 0x1A99), (0x1B50, 0x1B59), (0x1BB0, 0x1BB9), (0x1C40, 0x1C49),
  (0x1C50, 0x1C59), (0xA620, 0xA629), (0xA8D0, 0xA8D9), (0xA900, 0xA909), (0xA9D0, 0xA9D9),
  (0xA9F0, 0xA9F9), (0xAA50, 0xAA59), (0xABF0, 0xABF9), (0xFF10, 0xFF19), (0x104A0, 0x104A9),
  (0x10D30, 0x10D39), (0x11066, 0x1106F), (0x110F0, 0x110F9), (0x11136, 0x1113F),
  (0x111D0, 0x111D9), (0x112F0, 0x112F9), (0x11450, 0x11459), (0x114D0, 0x114D9),
  (0x11650, 0x11659), (0x116C0, 0x116C9), (0x11730, 0x11739), (0x118E0, 0x118E9),
  (0x11950, 0x11959), (0x11C50, 0x11C59), (0x11D50, 0x11D59), (0x11DA0, 0x11DA9),
  (0x16A60, 0x16A69), (0x16AC0, 0x16AC9), (0x16B50, 0x16B59), (0x1D7CE, 0x1D7FF),
  (0x1E140, 0x1E149), (0x1E2F0, 0x1E2F9), (0x1E950, 0x1E959), (0x1FBF0, 0x1FBF9)]

/-- A decimal digit of any script as the ASCII digit of the same value. -/
def asciiDigit (c : Char) : Char :=
  match decimalDigitRanges.find? fun range => range.1 ≤ c.toNat && c.toNat ≤ range.2 with
  | some range => Char.ofNat (48 + (c.toNat - range.1) % 10)
  | none => c

/-- Removes underscores that stand between two digits; any other underscore makes
the text no number. -/
def dropDigitSeparators : Option Char → List Char → Option (List Char)
  | before, [] => if before = some '_' then none else some []
  | before, c :: rest =>
      if c = '_' then
        if before.any Char.isDigit then dropDigitSeparators (some c) rest else none
      else if before = some '_' && !c.isDigit then none
      else (dropDigitSeparators (some c) rest).map (c :: ·)

/-- Whether a blank is more than an information separator. -/
def isSpace (c : Char) : Bool :=
  Text.isBlank c && !(28 ≤ c.toNat && c.toNat ≤ 31)

/-- Removes the spaces at both ends. -/
def stripSpaces (s : List Char) : List Char :=
  Text.dropTailWhile isSpace (s.dropWhile isSpace)

/-- Reads a number from a setting: spaces around it and underscores between its
digits do not count, and the digits may be of any script. -/
def lenientNumber (s : String) : Option Binary64 :=
  (dropDigitSeparators none ((stripSpaces s.toList).map asciiDigit)).bind readNumber

/-- Whether two neighbours of a text are both underscores. -/
def hasDoubleUnderscore : List Char → Bool
  | c :: d :: rest => (c = '_' && d = '_') || hasDoubleUnderscore (d :: rest)
  | _ => false

/-- Reads a number from a field of a record: either a number between spaces, or
one with single underscores inside it. -/
def fieldNumber (s : String) : Option Binary64 :=
  let chars := s.toList
  match readNumber (stripSpaces chars) with
  | some n => some n
  | none =>
      if chars.contains '_' && chars.head? != some '_' && chars.getLast? != some '_' &&
          !hasDoubleUnderscore chars then
        readNumber (chars.filter (· != '_'))
      else none

end Parley
