import Parley.Number.Binary64

/-!
# Numbers as text

Two ways to write a double precision number.  `shortest` uses the fewest digits
that read back as the number.  `general` rounds to six significant digits and
drops trailing zeros.  Both write the digits with a decimal point where the
exponent allows it and with a power of ten elsewhere.
-/

namespace Parley.Binary64

/-- A positive decimal fraction: its digits without leading zeros, and the
exponent of ten of the first digit. -/
structure Scientific where
  digits : List Char
  exponent : Int
  deriving Repr, DecidableEq

/-- The fraction `num / den` divided by `10 ^ e`. -/
def scaleDecimal (num den : Nat) (e : Int) : Nat × Nat :=
  if e < 0 then (num * tenTo e.natAbs, den) else (num, den * tenTo e.natAbs)

/-- The exponent of ten of the first digit of a positive fraction. -/
def leadingExponent (num den : Nat) : Int :=
  let guess : Int := (digitCount num : Int) - (digitCount den : Int)
  let scaled := scaleDecimal num den guess
  if scaled.1 < scaled.2 then guess - 1 else guess

/-- A number of `count` digits as a decimal fraction, where rounding may have
carried it to one digit more. -/
def scientific (count digits : Nat) (lead : Int) : Scientific :=
  if digits = tenTo count then ⟨Nat.toDigits 10 (tenTo (count - 1)), lead + 1⟩
  else ⟨Nat.toDigits 10 digits, lead⟩

/-- Drops the zeros at the end of the digits but keeps the first digit. -/
def trimZeros : List Char → List Char
  | [] => []
  | first :: rest => first :: (rest.reverse.dropWhile (· == '0')).reverse

/-- The value rounded to `count` significant digits, a tie going to even. -/
def roundDigits (count : Nat) (num den : Nat) : Scientific :=
  let lead := leadingExponent num den
  let scaled := scaleDecimal num den (lead - (count - 1 : Nat))
  scientific count (roundQuotient scaled.1 scaled.2) lead

/-- Whether `digits * 10 ^ exponent` reads back as the given number. -/
def readsBack (mantissa : Nat) (exponent : Int) (digits : Nat) (power : Int) : Bool :=
  ofDecimal false digits power = finite false mantissa exponent

/-- The neighbour of the value on the grid of `count` digits that reads back, the
nearer one if both do. -/
def gridNeighbour (count : Nat) (mantissa : Nat) (exponent : Int) : Option Scientific :=
  let value := ratio mantissa exponent
  let lead := leadingExponent value.1 value.2
  let power := lead - (count - 1 : Nat)
  let scaled := scaleDecimal value.1 value.2 power
  let below := scaled.1 / scaled.2
  let nearest := roundQuotient scaled.1 scaled.2
  let other := if nearest = below then below + 1 else below
  if readsBack mantissa exponent nearest power then some (scientific count nearest lead)
  else if readsBack mantissa exponent other power then some (scientific count other lead)
  else none

/-- The first digit count, of those given, whose grid has a neighbour that reads
back; seventeen digits always do. -/
def shortestDigits (mantissa : Nat) (exponent : Int) : Scientific :=
  match (List.range 17).findSome? fun n => gridNeighbour (n + 1) mantissa exponent with
  | some found => found
  | none =>
      let value := ratio mantissa exponent
      roundDigits 17 value.1 value.2

/-- An exponent of ten with its sign and at least two digits. -/
def exponentText (e : Int) : List Char :=
  let digits := Nat.toDigits 10 e.natAbs
  'e' :: (if e < 0 then '-' else '+') :: (List.replicate (2 - digits.length) '0' ++ digits)

/-- Digits with a decimal point after the first and a power of ten. -/
def exponentForm (s : Scientific) : List Char :=
  match s.digits with
  | [] => []
  | [first] => first :: exponentText s.exponent
  | first :: rest => first :: '.' :: rest ++ exponentText s.exponent

/-- Digits with the decimal point in place; `wholeTail` follows a whole number. -/
def positionalForm (wholeTail : List Char) (s : Scientific) : List Char :=
  if s.exponent < 0 then
    '0' :: '.' :: List.replicate (s.exponent.natAbs - 1) '0' ++ s.digits
  else
    let places := s.exponent.natAbs + 1
    let whole := s.digits.take places ++ List.replicate (places - s.digits.length) '0'
    match s.digits.drop places with
    | [] => whole ++ wholeTail
    | fraction => whole ++ '.' :: fraction

/-- A sign before the text of a negative number. -/
def signed (negative : Bool) (s : List Char) : String :=
  String.ofList (if negative then '-' :: s else s)

/-- The number in the fewest digits that read back as it.  Powers of ten appear
below `10 ^ -4` and from `10 ^ 16` on, and a whole number ends in `.0`. -/
def shortest : Binary64 → String
  | nan => "nan"
  | infinite negative => signed negative ['i', 'n', 'f']
  | finite negative 0 _ => signed negative ['0', '.', '0']
  | finite negative mantissa exponent =>
      let s := shortestDigits mantissa exponent
      let trimmed : Scientific := ⟨trimZeros s.digits, s.exponent⟩
      signed negative <|
        if s.exponent < -4 || 16 ≤ s.exponent then exponentForm trimmed
        else positionalForm ['.', '0'] trimmed

/-- The number rounded to six significant digits, without trailing zeros.  Powers
of ten appear below `10 ^ -4` and from `10 ^ 6` on. -/
def general : Binary64 → String
  | nan => "nan"
  | infinite negative => signed negative ['i', 'n', 'f']
  | finite negative 0 _ => signed negative ['0']
  | finite negative mantissa exponent =>
      let value := ratio mantissa exponent
      let s := roundDigits 6 value.1 value.2
      let trimmed : Scientific := ⟨trimZeros s.digits, s.exponent⟩
      signed negative <|
        if s.exponent < -4 || 6 ≤ s.exponent then exponentForm trimmed
        else positionalForm [] trimmed

end Parley.Binary64
