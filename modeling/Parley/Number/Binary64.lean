import Parley.Number.Natural

/-!
# Double precision numbers

The timeout of an endpoint is a double precision number that is read from text
and shown as text.  The numbers are kept as exact values, a mantissa times a
power of two, so that reading and showing them is arithmetic on integers.

`Binary64.ofRatio` rounds a fraction to the nearest number, a tie going to the
even mantissa; `Binary64.ofDecimal` reads digits and a power of ten.
-/

namespace Parley

/-- A double precision number.  A finite one is `mantissa * 2 ^ exponent`, with
`exponent ≥ -1074` and `mantissa < 2 ^ 53`; the mantissa is at least `2 ^ 52`
unless the exponent is `-1074`. -/
inductive Binary64
  | nan
  | infinite (negative : Bool)
  | finite (negative : Bool) (mantissa : Nat) (exponent : Int)
  deriving Repr, DecidableEq

namespace Binary64

/-- The quotient rounded to the nearest integer, a tie going to the even one. -/
def roundQuotient (num den : Nat) : Nat :=
  let q := num / den
  let r := num % den
  if 2 * r < den then q
  else if den < 2 * r then q + 1
  else if q % 2 = 0 then q else q + 1

/-- `num / den` divided by `2 ^ e`, as a fraction of natural numbers. -/
def scaleBinary (num den : Nat) (e : Int) : Nat × Nat :=
  if e < 0 then (num * twoTo e.natAbs, den) else (num, den * twoTo e.natAbs)

/-- The exponent at which the quotient has a mantissa of 53 bits, or the least
exponent if it is too small for that. -/
def mantissaExponent (num den : Nat) : Int :=
  let e : Int := (Nat.log2 num : Int) - (Nat.log2 den : Int) - 53
  let scaled := scaleBinary num den e
  max (if scaled.1 / scaled.2 < twoTo 53 then e else e + 1) (-1074)

/-- A mantissa and exponent as a number: a mantissa that rounding carried to
`2 ^ 53` moves to the next exponent, and an exponent that is too large gives
infinity. -/
def normal (negative : Bool) (mantissa : Nat) (exponent : Int) : Binary64 :=
  if mantissa = twoTo 53 then
    if 971 < exponent + 1 then infinite negative else finite negative (twoTo 52) (exponent + 1)
  else if 971 < exponent then infinite negative
  else finite negative mantissa exponent

/-- The number nearest to the fraction `num / den`. -/
def ofRatio (negative : Bool) (num den : Nat) : Binary64 :=
  if num = 0 then finite negative 0 (-1074)
  else
    let e := mantissaExponent num den
    let scaled := scaleBinary num den e
    normal negative (roundQuotient scaled.1 scaled.2) e

/-- The number of decimal digits of a natural number. -/
def digitCount (n : Nat) : Nat :=
  (Nat.toDigits 10 n).length

/-- The number nearest to `digits * 10 ^ exponent`.  Values beyond the range of
the format are settled without computing the power. -/
def ofDecimal (negative : Bool) (digits : Nat) (exponent : Int) : Binary64 :=
  if digits = 0 then finite negative 0 (-1074)
  else if 400 < (digitCount digits : Int) + exponent then infinite negative
  else if (digitCount digits : Int) + exponent < -400 then finite negative 0 (-1074)
  else if exponent < 0 then ofRatio negative digits (tenTo exponent.natAbs)
  else ofRatio negative (digits * tenTo exponent.natAbs) 1

/-- The number nearest to an integer. -/
def ofInt (n : Int) : Binary64 :=
  ofDecimal (n < 0) n.natAbs 0

/-- Whether the number is greater than zero. -/
def isPositive : Binary64 → Bool
  | nan => false
  | infinite negative => !negative
  | finite negative mantissa _ => !negative && mantissa != 0

/-- The value of a finite number without its sign, as a fraction. -/
def ratio (mantissa : Nat) (exponent : Int) : Nat × Nat :=
  if exponent < 0 then (mantissa, twoTo exponent.natAbs) else (mantissa * twoTo exponent.natAbs, 1)

/-- Whether a finite number is a whole number, and which one. -/
def toInt? : Binary64 → Option Int
  | finite negative mantissa exponent =>
      let value := ratio mantissa exponent
      if value.1 % value.2 = 0 then
        let n : Int := (value.1 / value.2 : Nat)
        some (if negative then -n else n)
      else none
  | _ => none

theorem not_isPositive_nan : isPositive nan = false := rfl

end Binary64

end Parley
