/-!
# Binary64 numbers

The values of the binary64 format, and the rounding of a decimal number to one of them. A finite
value is `significand · 2 ^ exponent`, with a significand below `2 ^ 53` and an exponent from
`-1074` to `971`. Rounding takes a number to the nearest value and a tie to the even significand,
in exact arithmetic on natural numbers.
-/

namespace BlackBox.Number

/-- A binary64 value. -/
inductive Binary64 where
  /-- Not a number. -/
  | nan
  /-- An infinity with its sign. -/
  | infinity (negative : Bool)
  /-- The number `significand · 2 ^ exponent` with its sign. -/
  | finite (negative : Bool) (significand : Nat) (exponent : Int)
  deriving Repr, DecidableEq

namespace Binary64

/-- The least exponent of a finite value. -/
def minExponent : Int := -1074

/-- The greatest exponent of a finite value. -/
def maxExponent : Int := 971

/-- Whether two values are numerically the same: zeros are equal whatever their signs, and not a
number is equal to itself. -/
def same : Binary64 → Binary64 → Bool
  | finite _ 0 _, finite _ 0 _ => true
  | a, b => a = b

/-- The quotient of two natural numbers, rounded to the nearest and in a tie to the even one. -/
def roundQuotient (num den : Nat) : Nat :=
  let q := num / den
  let r := num % den
  if 2 * r < den then q
  else if den < 2 * r then q + 1
  else if q % 2 = 0 then q else q + 1

/-- A fraction divided by a power of two, as numerator and denominator. -/
def scale (num den : Nat) (exponent : Int) : Nat × Nat :=
  if 0 ≤ exponent then (num, den * Nat.pow 2 exponent.toNat)
  else (num * Nat.pow 2 (-exponent).toNat, den)

/-- The value nearest to a positive fraction. -/
def ofFraction (negative : Bool) (num den : Nat) : Binary64 :=
  let guess : Int := (num.log2 : Int) - (den.log2 : Int) - 53
  let (n, d) := scale num den guess
  let exponent := max minExponent (if d * Nat.pow 2 53 ≤ n then guess + 1 else guess)
  let (n, d) := scale num den exponent
  let significand := roundQuotient n d
  let (significand, exponent) :=
    if significand = Nat.pow 2 53 then (Nat.pow 2 52, exponent + 1) else (significand, exponent)
  if maxExponent < exponent then infinity negative else finite negative significand exponent

/-- The value nearest to `digits · 10 ^ power`. Numbers beyond `10 ^ 310` and below `10 ^ -330` are
settled by their size alone. -/
def ofDecimal (negative : Bool) (digits : Nat) (power : Int) : Binary64 :=
  if digits = 0 then finite negative 0 minExponent
  else
    let magnitude : Int := (Nat.toDigits 10 digits).length + power
    if 311 < magnitude then infinity negative
    else if magnitude < -330 then finite negative 0 minExponent
    else if 0 ≤ power then ofFraction negative (digits * Nat.pow 10 power.toNat) 1
    else ofFraction negative digits (Nat.pow 10 (-power).toNat)

end Binary64

end BlackBox.Number
