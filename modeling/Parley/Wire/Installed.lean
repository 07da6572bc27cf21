import Parley.Number.Read
import Parley.Text.Blank
import Parley.Text.Printable
import Parley.Wire.Codec
import Parley.Wire.HostName

/-!
# The installed platform

A platform with the character sets that servers use most: those with one byte for a
character, and UTF-16.  It writes host names in the common scripts on the wire.
-/

namespace Parley.Wire.Installed

/-! ## Sets with one byte for a character -/

/-- A codec for a set with one byte for a character. -/
def ofTable (charOfByte : Nat → Char) : Codec where
  State := Unit
  start := .ok ()
  feed _ data := .ok (data.map fun byte => charOfByte byte.toNat, ())
  finish _ := .ok []

/-- A set that holds ASCII only. -/
def ascii (b : Nat) : Char :=
  if b < 0x80 then Char.ofNat b else replacement

/-- The characters of the bytes from 80 to 9F in the set `windows1252`. -/
def windows1252High : List Nat := [
  0x20AC, 0xFFFD, 0x201A, 0x0192, 0x201E, 0x2026, 0x2020, 0x2021, 0x02C6, 0x2030, 0x0160,
  0x2039, 0x0152, 0xFFFD, 0x017D, 0xFFFD, 0xFFFD, 0x2018, 0x2019, 0x201C, 0x201D, 0x2022,
  0x2013, 0x2014, 0x02DC, 0x2122, 0x0161, 0x203A, 0x0153, 0xFFFD, 0x017E, 0x0178]

/-- The set of the Windows systems of Western Europe. -/
def windows1252 (b : Nat) : Char :=
  if 0x80 ≤ b && b < 0xA0 then Char.ofNat (windows1252High.getD (b - 0x80) 0xFFFD)
  else Char.ofNat b

/-- The bytes of the set `latin9` that differ from `latin1`. -/
def latin9Changes : List (Nat × Nat) := [
  (0xA4, 0x20AC), (0xA6, 0x0160), (0xA8, 0x0161), (0xB4, 0x017D), (0xB8, 0x017E),
  (0xBC, 0x0152), (0xBD, 0x0153), (0xBE, 0x0178)]

/-- The Western European set with the sign of the euro. -/
def latin9 (b : Nat) : Char :=
  Char.ofNat (((latin9Changes.find? fun change => change.1 == b).map Prod.snd).getD b)

/-! ## UTF-16 -/

/-- The order of the two bytes of a unit. -/
inductive ByteOrder
  | little
  | big
  deriving Repr, DecidableEq

/-- The unit of two bytes. -/
def ByteOrder.unit (order : ByteOrder) (first second : Byte) : Nat :=
  match order with
  | little => second.toNat * 0x100 + first.toNat
  | big => first.toNat * 0x100 + second.toNat

/-- Whether a unit is the second one of a pair. -/
def isTrail (unit : Nat) : Bool :=
  0xDC00 ≤ unit && unit < 0xE000

/-- What a unit that starts anew brings, and the bytes of it that are kept. -/
def startUnit (order : ByteOrder) (first second : Byte) : List Char × List Byte :=
  let unit := order.unit first second
  if isTrail unit then ([replacement], [])
  else if 0xD800 ≤ unit && unit < 0xDC00 then ([], [first, second])
  else ([Char.ofNat unit], [])

/-- Reads a byte behind the bytes that were kept. -/
def pushByte (order : ByteOrder) (kept : List Byte) (byte : Byte) : List Char × List Byte :=
  match kept with
  | [first] => startUnit order first byte
  | [first, second, third] =>
      let trail := order.unit third byte
      if isTrail trail then
        let lead := order.unit first second
        ([Char.ofNat (0x10000 + (lead - 0xD800) * 0x400 + (trail - 0xDC00))], [])
      else
        let (text, rest) := startUnit order third byte
        (replacement :: text, rest)
  | _ => ([], kept ++ [byte])

/-- Reads bytes behind the bytes that were kept. -/
def pushBytes (order : ByteOrder) (kept : List Byte) : List Byte → List Char × List Byte
  | [] => ([], kept)
  | byte :: rest =>
      let (text, kept) := pushByte order kept byte
      let (more, kept) := pushBytes order kept rest
      (text ++ more, kept)

/-- What bytes that are kept at the end come to. -/
def leftOver (kept : List Byte) : List Char :=
  if kept.isEmpty then [] else [replacement]

/-- UTF-16 in a known order. -/
def utf16In (order : ByteOrder) : Codec where
  State := List Byte
  start := .ok []
  feed kept data := .ok (pushBytes order kept data)
  finish kept := .ok (leftOver kept)

/-- A text in UTF-16 of unknown order begins with a mark that tells the order. -/
def missingMark : CodecError :=
  ⟨"UnicodeError", "UTF-16 stream does not start with BOM"⟩

/-- UTF-16 in the order that its first two bytes tell.  Other bytes are an error as soon as
one of their units is complete. -/
def utf16 : Codec where
  State := Option ByteOrder × List Byte
  start := .ok (none, [])
  feed
    | (some order, kept), data =>
        let (text, kept) := pushBytes order kept data
        .ok (text, (some order, kept))
    | (none, kept), data =>
        match kept ++ data with
        | 0xFF :: 0xFE :: rest =>
            let (text, kept) := pushBytes .little [] rest
            .ok (text, (some .little, kept))
        | 0xFE :: 0xFF :: rest =>
            let (text, kept) := pushBytes .big [] rest
            .ok (text, (some .big, kept))
        | bytes =>
            let (text, kept) := pushBytes .little [] bytes
            if kept.length + 2 ≤ bytes.length then .error missingMark
            else .ok (text, (none, bytes))
  finish
    | (some _, kept) => .ok (leftOver kept)
    | (none, kept) => if kept.length < 2 then .ok (leftOver kept) else .error missingMark

/-! ## Names of sets -/

/-- A set that refuses every text. -/
def undefined : Codec where
  State := Unit
  start := .ok ()
  feed _ _ := .error ⟨"UnicodeError", "undefined encoding"⟩
  finish _ := .error ⟨"UnicodeError", "undefined encoding"⟩

/-- The words of a name, which are made of letters, digits and stops, with one underscore
between them. -/
def plainName (name : List Char) : List Char :=
  let words := Text.pieces (fun c => !(c.isAlphanum || c == '.')) (lowerAscii name)
  ['_'].intercalate (words.filter fun word => !word.isEmpty)

/-- The codecs of the sets, and the names of each. -/
def codecs : List (Codec × List String) := [
  (ofTable Char.ofNat, ["latin_1", "latin1", "latin", "l1", "iso8859_1", "iso_8859_1", "iso8859",
    "8859", "iso_8859_1_1987", "iso_ir_100", "cp819", "ibm819", "csisolatin1"]),
  (ofTable ascii, ["ascii", "us_ascii", "us", "646", "iso646_us", "iso_646.irv_1991", "iso_ir_6",
    "ansi_x3.4_1968", "ansi_x3_4_1968", "ansi_x3.4_1986", "cp367", "ibm367", "csascii"]),
  (ofTable windows1252, ["cp1252", "windows_1252", "1252"]),
  (ofTable latin9, ["iso8859_15", "iso_8859_15", "latin9", "l9"]),
  (utf16, ["utf_16", "utf16", "u16"]),
  (utf16In .little, ["utf_16_le", "utf_16le", "unicodelittleunmarked"]),
  (utf16In .big, ["utf_16_be", "utf_16be", "unicodebigunmarked"]),
  (undefined, ["undefined"])]

/-- A parameter of a content type, without quotation marks. -/
def unquote (value : List Char) : List Char :=
  match value with
  | '"' :: rest => if rest.getLast? = some '"' then rest.dropLast else value
  | _ => value

/-- The value of the parameter `charset`, if there is one. -/
def parameter? (contentType : List Char) : Option (List Char) :=
  ((Text.pieces (· == ';') contentType).drop 1).findSome? fun piece =>
    let name := piece.takeWhile (· != '=')
    let value := (piece.drop name.length).drop 1
    if lowerAscii (Text.strip name) = "charset".toList then some (unquote (Text.strip value))
    else none

/-- The codec of a set with a name. -/
def codecNamed? (name : List Char) : Option Codec :=
  let plain := String.ofList (plainName name)
  (codecs.find? fun entry => entry.2.contains plain).map Prod.fst

/-! ## Host names -/

/-- Whether a character may stand in a label beyond ASCII: symbols and spaces may
not. -/
def isLabelChar (c : Char) : Bool :=
  let n := c.toNat
  if n < 0x80 then c.isAlphanum || c == '-'
  else Text.isPrintable c && !(n < 0xDF && n != 0xB7) && n != 0xF7 && n != 0xD7 &&
    !(0x2000 ≤ n && n < 0x2C00) && !(0x3000 ≤ n && n < 0x3005) && !(0xFF00 ≤ n && n < 0x10000) &&
    !(0x1F000 ≤ n && n < 0x20000)

/-- The form of a label on the wire. -/
def wireLabel? (label : List Char) : Option (List Char) :=
  if label.isEmpty || !label.all isLabelChar || label.head? = some '-' ||
      label.getLast? = some '-' then
    none
  else
    let written :=
      if label.all fun c => c.toNat < 0x80 then label else HostName.asciiLabel label
    if written.length ≤ 63 then some written else none

/-- The form of an internationalised name on the wire. -/
def wireName? (host : List Char) : Option (List Char) :=
  let stops := host.map fun c => if HostName.isStop c then '.' else c
  let labels := HostName.splitAt '.' (stops.map HostName.lowerLetter)
  let (labels, trailing) :=
    if labels.getLast? = some [] then (labels.dropLast, ['.']) else (labels, [])
  if labels.isEmpty then none
  else (labels.mapM wireLabel?).map fun found => ['.'].intercalate found ++ trailing

end Installed

/-- The platform that is installed with the program. -/
@[reducible]
def Platform.installed : Platform where
  codec? contentType := (Installed.parameter? contentType.toList).bind Installed.codecNamed?
  hostName? := Installed.wireName?

end Parley.Wire
