import Parley.Text.Quoted

/-!
# Host names

A host is an IPv4 address, an IPv6 address in brackets, or a name.  Addresses
are checked and kept.  A label of a name that has characters beyond ASCII has an
ASCII form, a variable-length code of the missing characters behind `xn--`.
-/

namespace Parley.Wire.HostName

/-- Cuts a text at a character. -/
def splitAt (mark : Char) : List Char → List (List Char)
  | [] => [[]]
  | c :: rest =>
      match splitAt mark rest with
      | [] => [[c]]
      | first :: others => if c = mark then [] :: first :: others else (c :: first) :: others

/-! ## Addresses -/

/-- Whether a text is a run of digits, followed `runs` times by one arbitrary
character and a run of digits. -/
def digitRuns : Nat → Bool → List Char → Bool
  | runs, inRun, [] => runs = 0 && inRun
  | runs, inRun, c :: rest =>
      (c.isDigit && digitRuns runs true rest) ||
        (inRun && match runs with
          | 0 => false
          | more + 1 => digitRuns more false rest)

/-- Whether a host looks like an IPv4 address. -/
def looksNumeric (host : List Char) : Bool :=
  digitRuns 3 false host

/-- A part of an IPv4 address: at most 255, without leading zeros. -/
def isOctet (part : List Char) : Bool :=
  !part.isEmpty && part.length ≤ 3 && part.all Char.isDigit &&
    (part.length = 1 || part.head? != some '0') &&
    part.foldl (fun value c => value * 10 + (c.toNat - 48)) 0 ≤ 255

/-- Whether a host is an IPv4 address. -/
def isIPv4 (host : List Char) : Bool :=
  let parts := splitAt '.' host
  parts.length = 4 && parts.all isOctet

/-- A part of an IPv6 address: one to four hexadecimal digits. -/
def isHextet (part : List Char) : Bool :=
  !part.isEmpty && part.length ≤ 4 &&
    part.all fun c => c.isDigit || ('a' ≤ c.toLower && c.toLower ≤ 'f')

/-- The parts of an IPv6 address, with an IPv4 address at the end counted as two. -/
def hextets? (host : List Char) : Option (List (List Char)) :=
  let parts := splitAt ':' host
  match parts.getLast? with
  | some last =>
      if parts.length < 3 then none
      else if last.contains '.' then
        if isIPv4 last then some (parts.dropLast ++ [['0'], ['0']]) else none
      else some parts
  | none => none

/-- Whether the parts of an IPv6 address are complete, or leave out one run of
them between two colons. -/
def areHextets (parts : List (List Char)) : Bool :=
  let inner := (parts.drop 1).dropLast
  let gaps := inner.countP List.isEmpty
  let outer := parts.head?.toList ++ parts.getLast?.toList
  if 9 < parts.length || 1 < gaps then false
  else if gaps = 1 then
    let before := (parts.takeWhile fun part => !part.isEmpty)
    let leadGap := parts.head? = some []
    let tailGap := parts.getLast? = some []
    let high := if leadGap then 0 else before.length
    let low := parts.length - 1 - (inner.takeWhile fun part => !part.isEmpty).length - 1
    let low := if tailGap then low - 1 else low
    (!leadGap || (inner.head? = some [])) && (!tailGap || (inner.getLast? = some [])) &&
      high + low < 8 && (parts.filter fun part => !part.isEmpty).all isHextet
  else parts.length = 8 && outer.all (fun part => !part.isEmpty) && parts.all isHextet

/-- Whether a text is an IPv6 address, with or without a zone. -/
def isIPv6 (host : List Char) : Bool :=
  let address := host.takeWhile (· != '%')
  let zone := host.drop address.length
  let zoneFine := zone.isEmpty || (1 < zone.length && !(zone.drop 1).contains '%')
  !host.contains '/' && zoneFine && (hextets? address).any areHextets

/-! ## Names -/

/-- The lower-case form of a letter of the Latin, Greek and Cyrillic scripts. -/
def lowerLetter (c : Char) : Char :=
  let n := c.toNat
  if (0x41 ≤ n && n ≤ 0x5A) || (0xC0 ≤ n && n ≤ 0xDE && n != 0xD7) ||
      (0x391 ≤ n && n ≤ 0x3AB && n != 0x3A2) || (0x410 ≤ n && n ≤ 0x42F) then Char.ofNat (n + 32)
  else if 0x400 ≤ n && n ≤ 0x40F then Char.ofNat (n + 80)
  else if ((0x100 ≤ n && n ≤ 0x12F) || (0x132 ≤ n && n ≤ 0x137) || (0x14A ≤ n && n ≤ 0x177) ||
      (0x460 ≤ n && n ≤ 0x481) || (0x48A ≤ n && n ≤ 0x4BF)) && n % 2 = 0 then Char.ofNat (n + 1)
  else if ((0x139 ≤ n && n ≤ 0x148) || (0x179 ≤ n && n ≤ 0x17E)) && n % 2 = 1 then
    Char.ofNat (n + 1)
  else if n = 0x178 then 'ÿ'
  else if n = 0x212A then 'k'
  else c

/-- The digit of a value below 36. -/
def codeDigit (value : Nat) : Char :=
  if value < 26 then Char.ofNat (0x61 + value) else Char.ofNat (0x30 + value - 26)

/-- The threshold of a digit. -/
def threshold (place bias : Nat) : Nat :=
  if place ≤ bias then 1 else if bias + 26 ≤ place then 26 else place - bias

theorem threshold_pos (place bias : Nat) : 1 ≤ threshold place bias := by
  unfold threshold
  split
  · omega
  · split <;> omega

/-- Divides a gap until it is small, counting the places. -/
def shrinkGap (gap places : Nat) : Nat × Nat :=
  if 455 < gap then shrinkGap (gap / 35) (places + 36) else (gap, places)
termination_by gap
decreasing_by exact Nat.div_lt_self (by omega) (by omega)

/-- The bias after a gap was written. -/
def adapt (gap count : Nat) (first : Bool) : Nat :=
  let gap := if first then gap / 700 else gap / 2
  let (gap, places) := shrinkGap (gap + gap / count) 0
  places + 36 * gap / (gap + 38)

/-- A gap as digits of variable length. -/
def gapDigits (bias place gap : Nat) : List Char :=
  let limit := threshold place bias
  if gap < limit then [codeDigit gap]
  else codeDigit (limit + (gap - limit) % (36 - limit)) ::
    gapDigits bias (place + 36) ((gap - limit) / (36 - limit))
termination_by gap
decreasing_by
  have hpos := threshold_pos place bias
  calc (gap - threshold place bias) / (36 - threshold place bias)
      ≤ gap - threshold place bias := Nat.div_le_self _ _
    _ < gap := by omega

/-- What was written of a label. -/
structure LabelCode where
  written : List Char
  gap : Nat
  bias : Nat
  count : Nat

/-- Passes over a character while the characters of one code point are written. -/
def passChar (basic point : Nat) (code : LabelCode) (c : Char) : LabelCode :=
  if c.toNat < point then { code with gap := code.gap + 1 }
  else if c.toNat = point then
    ⟨code.written ++ gapDigits code.bias 36 code.gap, 0,
      adapt code.gap (code.count + 1) (code.count = basic), code.count + 1⟩
  else code

/-- Writes the code points of a label in ascending order. -/
def writePoints (label : List Char) (basic : Nat) : List Nat → Nat → LabelCode → LabelCode
  | [], _, code => code
  | point :: others, next, code =>
      let code := { code with gap := code.gap + (point - next) * (code.count + 1) }
      let code := label.foldl (passChar basic point) code
      writePoints label basic others (point + 1) { code with gap := code.gap + 1 }

/-- Inserts a code point into an ascending list. -/
def insertPoint (point : Nat) : List Nat → List Nat
  | [] => [point]
  | first :: others =>
      if point < first then point :: first :: others
      else if point = first then first :: others
      else first :: insertPoint point others

/-- The ASCII form of a label. -/
def asciiLabel (label : List Char) : List Char :=
  let basic := label.filter fun c => c.toNat < 0x80
  let foreign := label.filter fun c => 0x80 ≤ c.toNat
  let points := foreign.foldr (fun c found => insertPoint c.toNat found) []
  let code := writePoints label basic.length points 0x80 ⟨[], 0, 72, basic.length⟩
  "xn--".toList ++ basic ++ (if basic.isEmpty then [] else ['-']) ++ code.written

/-- Whether a character separates labels: a full stop, also an ideographic, a
full-width or a half-width one. -/
def isStop (c : Char) : Bool :=
  c == '.' || c == '\u3002' || c == '\uff0e' || c == '\uff61'

end Parley.Wire.HostName
