import Parley.Markdown.Character
import Parley.Markdown.EntityTable

/-!
# Character references and escapes

A character can be written by its name or its number between `&` and `;`, and a
punctuation character can be written behind a backslash.  `reference?` reads one
reference, and `unescape` replaces references and escapes in a text that is not
read any further.
-/

namespace Parley.Markdown

/-- The value of a digit, in either case. -/
def digitOf? (base : Nat) (c : Char) : Option Nat :=
  let n := c.toNat
  let value :=
    if c.isDigit then n - 0x30
    else if 0x41 ≤ n && n ≤ 0x46 then n - 0x37
    else if 0x61 ≤ n && n ≤ 0x66 then n - 0x57
    else base
  if value < base then some value else none

/-- The value of digits. -/
def valueOf (base : Nat) (digits : List Char) : Nat :=
  digits.foldl (fun value c => value * base + (digitOf? base c).getD 0) 0

/-- The code points of a word of the table. -/
def wordPoints (word : List Char) : List Char :=
  (Text.pieces (· == '+') word).map fun digits => Char.ofNat (valueOf 16 digits)

/-- The characters of a name, if a line of the table has it. -/
def inLine? (name : List Char) (line : String) : Option (List Char) :=
  ((Text.words line.toList).find? fun word => word.takeWhile (· != '=') == name).map fun word =>
    wordPoints (word.drop (name.length + 1))

/-- The characters of a name. -/
def named? (name : List Char) : Option (List Char) :=
  entityLines.findSome? (inLine? name)

/-- Whether a number stands for a character that may be shown: no surrogate, no
non-character and no control. -/
def isShownPoint (n : Nat) : Bool :=
  n ≤ 0x10FFFF && !(0xD800 ≤ n && n ≤ 0xDFFF) && !(0xFDD0 ≤ n && n ≤ 0xFDEF) &&
    n % 0x10000 < 0xFFFE && !(n ≤ 8) && n != 0x0B && !(0x0E ≤ n && n ≤ 0x1F) &&
    !(0x7F ≤ n && n ≤ 0x9F)

/-- The digits of a numeric reference with their base, and the rest.  `decimal` and
`hexadecimal` limit their number. -/
def numberDigits? (decimal hexadecimal : Nat) (s : List Char) :
    Option (Nat × List Char × List Char) :=
  let (base, limit, s) := match s with
    | 'x' :: rest => (16, hexadecimal, rest)
    | 'X' :: rest => (16, hexadecimal, rest)
    | _ => (10, decimal, s)
  let digits := s.takeWhile fun c => (digitOf? base c).isSome
  if digits.isEmpty || limit < digits.length then none
  else some (base, digits, s.drop digits.length)

/-- Whether a character may stand in a name after its first one. -/
def isNameChar (c : Char) : Bool :=
  c.isAlphanum

/-- The name at the start of a text up to a semicolon, and the rest. -/
def takeName? (s : List Char) : Option (List Char × List Char) :=
  let name := s.takeWhile isNameChar
  match s.head?, s.drop name.length with
  | some first, ';' :: rest =>
      if first.isAlpha && 2 ≤ name.length && name.length ≤ 32 then some (name, rest) else none
  | _, _ => none

/-- Reads a reference, given what follows its ampersand.  Returns the characters and
the rest of the text; a number that stands for no shown character gives the
replacement character. -/
def reference? (s : List Char) : Option (List Char × List Char) :=
  match s with
  | '#' :: rest =>
      match numberDigits? 7 6 rest with
      | some (base, digits, ';' :: after) =>
          let n := valueOf base digits
          some ([if isShownPoint n then Char.ofNat n else '\ufffd'], after)
      | _ => none
  | _ =>
      (takeName? s).bind fun (name, after) => (named? name).map fun found => (found, after)

/-- Reads a reference in a text that is not read any further: longer numbers are
allowed, and those that stand for no shown character stay as they are. -/
def plainReference? (s : List Char) : Option (List Char × List Char) :=
  match s with
  | '#' :: rest =>
      match numberDigits? 8 8 rest with
      | some (base, digits, ';' :: after) =>
          let n := valueOf base digits
          if isShownPoint n then some ([Char.ofNat n], after) else none
      | _ => none
  | _ => reference? s

/-- Replaces escapes and references, given how many characters are part of one that
was replaced. -/
def unescapeAfter (skip : Nat) : List Char → List Char
  | [] => []
  | c :: rest =>
      match skip with
      | more + 1 => unescapeAfter more rest
      | 0 =>
          if c = '\\' && rest.head?.any isAsciiPunctuation then rest.take 1 ++ unescapeAfter 1 rest
          else if c = '&' then
            match plainReference? rest with
            | some (found, after) => found ++ unescapeAfter (rest.length - after.length) rest
            | none => c :: unescapeAfter 0 rest
          else c :: unescapeAfter 0 rest

/-- Replaces escapes and references. -/
def unescape (s : List Char) : List Char :=
  unescapeAfter 0 s

end Parley.Markdown
