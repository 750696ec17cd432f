import BlackBox.Number.Binary64

/-!
# Shortest decimals

The decimal number with the fewest digits that rounds to a given binary64 value, and among those
the one nearest to it. The numbers that round to a value form an interval; its ends belong to it
exactly when the significand is even. For one digit, two digits and so on, the two neighbours of the
value on the grid of decimals with that many digits are tried: if a point of a grid lies in the
interval, then so does one of the value's two neighbours on that grid.
-/

namespace BlackBox.Number

/-- A positive decimal number: its digits as a natural number not divisible by ten, and the power
of ten by which they are multiplied. -/
structure Decimal where
  /-- The digits. -/
  digits : Nat
  /-- The power of ten. -/
  power : Int
  deriving Repr, DecidableEq

namespace Decimal

/-- Moves factors of ten from the digits to the power, at most `fuel` of them. -/
def strip : Nat → Nat → Int → Decimal
  | 0, digits, power => ⟨digits, power⟩
  | fuel + 1, digits, power =>
    if digits % 10 = 0 ∧ digits ≠ 0 then strip fuel (digits / 10) (power + 1)
    else ⟨digits, power⟩

/-- The greatest `k` with `10 ^ k ≤ num / den`, searched for downwards from `k` in at most `fuel`
steps. -/
def leading : Nat → Nat → Nat → Int → Int
  | 0, _, _, k => k
  | fuel + 1, num, den, k =>
    let fits := if 0 ≤ k then decide (den * Nat.pow 10 k.toNat ≤ num)
      else decide (den ≤ num * Nat.pow 10 (-k).toNat)
    if fits then k else leading fuel num den (k - 1)

/-- The interval of numbers that round to `significand · 2 ^ exponent`, in quarters of
`2 ^ exponent`: the value itself, and the two ends. Below a power of two the next value is only
half as far away. -/
def interval (significand : Nat) (exponent : Int) : Nat × Nat × Nat :=
  let below := if significand = Nat.pow 2 52 ∧ Binary64.minExponent < exponent then 1 else 2
  (4 * significand, 4 * significand - below, 4 * significand + 2)

/-- Tries the neighbours of `value / den` on the grid of multiples of `10 ^ power`. The interval is
`low / den` to `high / den`, with its ends if `closed`. -/
def onGrid (value low high den : Nat) (closed : Bool) (power : Int) : Option Nat :=
  let up := if 0 ≤ power then 1 else Nat.pow 10 (-power).toNat
  let down := if 0 ≤ power then Nat.pow 10 power.toNat else 1
  let unit := den * down
  let q := value * up / unit
  let inside (n : Nat) : Bool :=
    if closed then low * up ≤ n * unit && n * unit ≤ high * up
    else low * up < n * unit && n * unit < high * up
  let downward := value * up - q * unit
  let upward := (q + 1) * unit - value * up
  match inside q && q != 0, inside (q + 1) with
  | true, true =>
    if downward < upward then some q
    else if upward < downward then some (q + 1)
    else if q % 2 = 0 then some q else some (q + 1)
  | true, false => some q
  | false, true => some (q + 1)
  | false, false => none

/-- Tries grids of ever more digits, beginning with multiples of `10 ^ power`. -/
def search (value low high den : Nat) (closed : Bool) : Nat → Int → Decimal
  | 0, power => ⟨value / den, power⟩
  | fuel + 1, power =>
    match onGrid value low high den closed power with
    | some n => strip 20 n power
    | none => search value low high den closed fuel (power - 1)

/-- The shortest decimal that rounds to `significand · 2 ^ exponent`, for a positive
significand. -/
def shortest (significand : Nat) (exponent : Int) : Decimal :=
  let (value, low, high) := interval significand exponent
  let two := Nat.pow 2 (exponent - 2).natAbs
  let (up, den) := if 0 ≤ exponent - 2 then (two, 1) else (1, two)
  let (value, low, high) := (value * up, low * up, high * up)
  let k := leading 700 value den 310
  search value low high den (significand % 2 = 0) 18 k

end Decimal

end BlackBox.Number
