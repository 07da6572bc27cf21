/-!
# Reading and writing UTF-8

Bytes arrive in pieces of any size, so the reader keeps the part of a character
that it has seen.  A faulty sequence counts as one fault as soon as a byte
cannot continue it, and that byte starts anew; what is left over at the end is
one more fault.  Readers that tolerate faults show each of them as the
replacement character, strict readers refuse the text.
-/

namespace Parley.Wire

/-- A byte. -/
abbrev Byte := UInt8

/-- The character that stands for what could not be read. -/
def replacement : Char := '\ufffd'

namespace Utf8

/-- What was read of a character so far. -/
inductive State
  | start
  /-- `more` bytes are missing, the next of them between `low` and `high`. -/
  | within (value more low high : Nat)
  deriving Repr, DecidableEq

/-- A character, or a fault. -/
abbrev Item := Option Char

/-- Reads a byte that starts a character.  The bounds of the second byte exclude
overlong forms, surrogates and values past the last character. -/
def lead (b : Nat) : List Item × State :=
  if b < 0x80 then ([some (Char.ofNat b)], .start)
  else if 0xC2 ≤ b && b ≤ 0xDF then ([], .within (b - 0xC0) 1 0x80 0xBF)
  else if b = 0xE0 then ([], .within 0 2 0xA0 0xBF)
  else if b = 0xED then ([], .within 0xD 2 0x80 0x9F)
  else if 0xE1 ≤ b && b ≤ 0xEF then ([], .within (b - 0xE0) 2 0x80 0xBF)
  else if b = 0xF0 then ([], .within 0 3 0x90 0xBF)
  else if b = 0xF4 then ([], .within 4 3 0x80 0x8F)
  else if 0xF1 ≤ b && b ≤ 0xF3 then ([], .within (b - 0xF0) 3 0x80 0xBF)
  else ([none], .start)

/-- Reads a byte. -/
def step (state : State) (byte : Byte) : List Item × State :=
  let b := byte.toNat
  match state with
  | .start => lead b
  | .within value more low high =>
      if low ≤ b && b ≤ high then
        let value := value * 0x40 + (b - 0x80)
        if more ≤ 1 then ([some (Char.ofNat value)], .start)
        else ([], .within value (more - 1) 0x80 0xBF)
      else
        let (items, state) := lead b
        (none :: items, state)

/-- The fault that an unfinished character is. -/
def finish : State → List Item
  | .start => []
  | .within .. => [none]

/-- Reads bytes, the items found so far in reverse order. -/
def runAfter (found : List Item) : State → List Byte → List Item × State
  | state, [] => (found.reverse, state)
  | state, byte :: rest =>
      let (items, state) := step state byte
      runAfter (items.reverse ++ found) state rest

/-- Reads bytes from a state. -/
def run (state : State) (bytes : List Byte) : List Item × State :=
  runAfter [] state bytes

/-- All items of a complete text. -/
def items (bytes : List Byte) : List Item :=
  let (found, state) := run .start bytes
  found ++ finish state

/-- An item with faults shown as the replacement character. -/
def shownItem (item : Item) : Char :=
  item.getD replacement

/-- The text of bytes, with faults shown. -/
def decode (bytes : List Byte) : String :=
  String.ofList ((items bytes).map shownItem)

/-- The text of bytes that hold no fault. -/
def decode? (bytes : List Byte) : Option String :=
  ((items bytes).mapM id).map String.ofList

/-- The bytes of a character. -/
def encodeChar (c : Char) : List Byte :=
  let n := c.toNat
  let tail (unit : Nat) := UInt8.ofNat (0x80 + n / unit % 0x40)
  if n < 0x80 then [UInt8.ofNat n]
  else if n < 0x800 then [UInt8.ofNat (0xC0 + n / 0x40), tail 1]
  else if n < 0x10000 then [UInt8.ofNat (0xE0 + n / 0x1000), tail 0x40, tail 1]
  else [UInt8.ofNat (0xF0 + n / 0x40000), tail 0x1000, tail 0x40, tail 1]

/-- The bytes of a text. -/
def encode (s : List Char) : List Byte :=
  s.flatMap encodeChar

end Utf8

end Parley.Wire
