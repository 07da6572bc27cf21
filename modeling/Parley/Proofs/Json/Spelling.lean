import Parley.Json.Value
import Parley.Number.Read

/-!
# The texts of a JSON value

A value has many texts.  White space may stand between the tokens, every character of a
string may be escaped in up to three ways, and some have to be.  The relations below
say which texts are texts of a value; they do not say how to find the value of a text.
The names in an object are distinct.
-/

namespace Parley.Json

/-- White space between tokens. -/
def Blank (s : List Char) : Prop :=
  ∀ c ∈ s, c ∈ [' ', '\t', '\n', '\r']

/-! ## Strings -/

/-- The hexadecimal digit of a value, in either letter case. -/
def HexDigit (value : Nat) (c : Char) : Prop :=
  "0123456789abcdef".toList[value]? = some c ∨ "0123456789ABCDEF".toList[value]? = some c

/-- The four digits of a code unit. -/
inductive HexCode : Nat → List Char → Prop
  | intro {a b c d : Nat} {p q r s : Char} (hp : HexDigit a p) (hq : HexDigit b q)
      (hr : HexDigit c r) (hs : HexDigit d s) :
      HexCode (((a * 16 + b) * 16 + c) * 16 + d) [p, q, r, s]

/-- The letters that may follow a backslash, each with the character it stands for. -/
def letterEscapes : List (Char × Char) :=
  [('"', '"'), ('\\', '\\'), ('/', '/'), ('b', '\x08'), ('f', '\x0c'), ('n', '\n'),
    ('r', '\r'), ('t', '\t')]

/-- The texts of a character in a string. -/
inductive SpelledChar (c : Char) : List Char → Prop
  | itself (hcontrol : 0x20 ≤ c.toNat) (hquote : c ≠ '"') (hslash : c ≠ '\\') :
      SpelledChar c [c]
  | letter {e : Char} (hletter : (e, c) ∈ letterEscapes) : SpelledChar c ['\\', e]
  | code {digits : List Char} (hdigits : HexCode c.toNat digits) :
      SpelledChar c ('\\' :: 'u' :: digits)
  /-- Beyond the first plane a character is a pair of surrogates. -/
  | pair {high low : Nat} {first second : List Char}
      (hchar : c.toNat = 0x10000 + high * 0x400 + low) (hlow : low < 0x400)
      (hfirst : HexCode (0xD800 + high) first) (hsecond : HexCode (0xDC00 + low) second) :
      SpelledChar c ('\\' :: 'u' :: (first ++ '\\' :: 'u' :: second))

/-- The texts of characters in a string. -/
inductive SpelledText : List Char → List Char → Prop
  | nil : SpelledText [] []
  | cons {c : Char} {s t u : List Char} (hchar : SpelledChar c t) (hrest : SpelledText s u) :
      SpelledText (c :: s) (t ++ u)

/-! ## Numbers -/

def SomeDigits (s : List Char) : Prop :=
  s ≠ [] ∧ ∀ c ∈ s, c.isDigit = true

/-- The digits of a whole number, in which a leading zero stands alone.  With the sign they
are at most `digits` characters. -/
structure WholeDigits (digits : Nat) (negative : Bool) (s : List Char) : Prop where
  someDigits : SomeDigits s
  zero : s.head? = some '0' → s = ['0']
  length_le : negative.toNat + s.length ≤ digits

/-- The texts of a power of ten. -/
inductive SpelledPower : Int → List Char → Prop
  | unsigned {mark : Char} {digits : List Char} (hmark : mark ∈ ['e', 'E'])
      (hdigits : SomeDigits digits) : SpelledPower (digitsValue digits) (mark :: digits)
  | plus {mark : Char} {digits : List Char} (hmark : mark ∈ ['e', 'E'])
      (hdigits : SomeDigits digits) : SpelledPower (digitsValue digits) (mark :: '+' :: digits)
  | minus {mark : Char} {digits : List Char} (hmark : mark ∈ ['e', 'E'])
      (hdigits : SomeDigits digits) :
      SpelledPower (-(digitsValue digits : Int)) (mark :: '-' :: digits)

/-- The texts of a number after its sign, with at most `digits` characters in the whole part.
Without a fraction and a power it is an integer. -/
inductive SpelledNumber (digits : Nat) (negative : Bool) : Json → List Char → Prop
  | integer {whole : List Char} (hwhole : WholeDigits digits negative whole) :
      SpelledNumber digits negative
        (.integer (if negative then -(digitsValue whole : Int) else digitsValue whole)) whole
  | fraction {whole places : List Char} (hwhole : WholeDigits digits negative whole)
      (hplaces : SomeDigits places) :
      SpelledNumber digits negative
        (.float (.ofDecimal negative (digitsValue (whole ++ places)) (0 - places.length)))
        (whole ++ '.' :: places)
  | power {whole power : List Char} {n : Int} (hwhole : WholeDigits digits negative whole)
      (hpower : SpelledPower n power) :
      SpelledNumber digits negative (.float (.ofDecimal negative (digitsValue whole) n))
        (whole ++ power)
  | fractionPower {whole places power : List Char} {n : Int}
      (hwhole : WholeDigits digits negative whole) (hplaces : SomeDigits places)
      (hpower : SpelledPower n power) :
      SpelledNumber digits negative
        (.float (.ofDecimal negative (digitsValue (whole ++ places)) (n - places.length)))
        (whole ++ '.' :: (places ++ power))

/-! ## Values -/

/-- The texts of a name, with the white space around it. -/
inductive SpelledName (name : String) : List Char → Prop
  | intro {before text after : List Char} (hbefore : Blank before)
      (htext : SpelledText name.toList text) (hafter : Blank after) :
      SpelledName name (before ++ ('"' :: (text ++ ('"' :: after))))

mutual

/-- The texts of a value in which the whole part of every number has at most `digits`
characters. -/
inductive Spelled (digits : Nat) : Json → List Char → Prop
  | null : Spelled digits .null "null".toList
  | isTrue : Spelled digits (.bool true) "true".toList
  | isFalse : Spelled digits (.bool false) "false".toList
  | number {v : Json} {t : List Char} (hnumber : SpelledNumber digits false v t) :
      Spelled digits v t
  | negative {v : Json} {t : List Char} (hnumber : SpelledNumber digits true v t) :
      Spelled digits v ('-' :: t)
  | string {s : String} {t : List Char} (htext : SpelledText s.toList t) :
      Spelled digits (.string s) ('"' :: (t ++ ['"']))
  | emptyArray {t : List Char} (hblank : Blank t) :
      Spelled digits (.array []) ('[' :: (t ++ [']']))
  | array {items : List Json} {t : List Char} (hitems : SpelledItems digits items t) :
      Spelled digits (.array items) ('[' :: (t ++ [']']))
  | emptyObject {t : List Char} (hblank : Blank t) :
      Spelled digits (.object []) ('{' :: (t ++ ['}']))
  | object {members : List (String × Json)} {t : List Char}
      (hmembers : SpelledMembers digits members t) :
      Spelled digits (.object members) ('{' :: (t ++ ['}']))

/-- These texts, with the white space around them. -/
inductive PaddedWithin (digits : Nat) : Json → List Char → Prop
  | intro {v : Json} {before t after : List Char} (hbefore : Blank before)
      (hvalue : Spelled digits v t) (hafter : Blank after) :
      PaddedWithin digits v (before ++ (t ++ after))

/-- The texts of one or more items between brackets. -/
inductive SpelledItems (digits : Nat) : List Json → List Char → Prop
  | last {v : Json} {t : List Char} (hvalue : PaddedWithin digits v t) :
      SpelledItems digits [v] t
  | cons {v : Json} {others : List Json} {t u : List Char}
      (hvalue : PaddedWithin digits v t) (hothers : SpelledItems digits others u) :
      SpelledItems digits (v :: others) (t ++ ',' :: u)

/-- The texts of one or more members between braces. -/
inductive SpelledMembers (digits : Nat) : List (String × Json) → List Char → Prop
  | last {name : String} {v : Json} {n t : List Char} (hname : SpelledName name n)
      (hvalue : PaddedWithin digits v t) : SpelledMembers digits [(name, v)] (n ++ ':' :: t)
  | cons {name : String} {v : Json} {others : List (String × Json)} {n t u : List Char}
      (hname : SpelledName name n) (hvalue : PaddedWithin digits v t)
      (hothers : SpelledMembers digits others u) (hnew : name ∉ others.map Prod.fst) :
      SpelledMembers digits ((name, v) :: others) (n ++ ':' :: (t ++ ',' :: u))

end

/-- The texts of a value, with the white space around them. -/
def Padded (v : Json) (t : List Char) : Prop :=
  ∃ digits, PaddedWithin digits v t

/-! ## Nesting -/

mutual

/-- How many containers with contents stand inside one another in a value. -/
def nesting : Json → Nat
  | .array items => if items.isEmpty then 0 else nestingItems items + 1
  | .object members => if members.isEmpty then 0 else nestingMembers members + 1
  | _ => 0

def nestingItems : List Json → Nat
  | [] => 0
  | item :: others => max (nesting item) (nestingItems others)

def nestingMembers : List (String × Json) → Nat
  | [] => 0
  | (_, value) :: others => max (nesting value) (nestingMembers others)

end

end Parley.Json
