import BlackBox.Number.Shortest

/-!
# Layouts of numbers

How a binary64 value is written. Both layouts write the shortest decimal that reads back as the
value, with a point and at least one digit after it wherever there is no exponent. They differ in
their use of exponents and in their words for the values that are no numbers.
-/

namespace BlackBox.Number

/-- The choices of a layout. -/
structure Layout where
  /-- The positions of the decimal point, counted from the first digit, for which the number is
  written without an exponent. -/
  positional : Int → Bool
  /-- The word for an infinity, after its sign. -/
  infinity : String
  /-- The word for what is not a number. -/
  nan : String

namespace Layout

/-- Values in documents: an exponent outside `10 ^ -5` to `10 ^ 16`, and dotted words. -/
def document : Layout := ⟨fun point => -5 < point && point ≤ 16, ".inf", ".nan"⟩

/-- Values in messages: never an exponent, and plain words. -/
def message : Layout := ⟨fun _ => true, "inf", "NaN"⟩

/-- A number without an exponent. The point stands after `point` of the digits. -/
def writePositional (digits : List Char) (point : Int) : List Char :=
  if point ≤ 0 then '0' :: '.' :: (List.replicate (-point).toNat '0' ++ digits)
  else
    let whole := digits.take point.toNat
    let zeros := List.replicate (point.toNat - whole.length) '0'
    let part := digits.drop point.toNat
    whole ++ zeros ++ ('.' :: (if part.isEmpty then ['0'] else part))

/-- A number with an exponent: a point after the first digit, unless that is the only one. -/
def writeExponent (digits : List Char) (point : Int) : List Char :=
  let part := digits.drop 1
  digits.take 1 ++ (if part.isEmpty then [] else '.' :: part)
    ++ 'e' :: (toString (point - 1)).toList

/-- The text of a value. -/
def write (layout : Layout) : Binary64 → String
  | .nan => layout.nan
  | .infinity negative => (if negative then "-" else "") ++ layout.infinity
  | .finite negative significand exponent =>
    let sign := if negative then "-" else ""
    if significand = 0 then sign ++ "0.0"
    else
      let d := Decimal.shortest significand exponent
      let digits := Nat.toDigits 10 d.digits
      let point := digits.length + d.power
      sign ++ String.ofList
        (if layout.positional point then writePositional digits point
         else writeExponent digits point)

end Layout

end BlackBox.Number
