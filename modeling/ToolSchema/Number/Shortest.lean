import ToolSchema.Number.Binary64

/-!
# Shortest numerals

The decimal numeral of a double precision number: the shortest one that reads back to it, and of
several such the nearest. The numbers that round to `x` form an interval around it, whose ends count
if the mantissa is even; the shortest numeral is the multiple in the interval of the largest power of
ten that has one there (`Magnitude.shortest?`).
-/

namespace ToolSchema

/-- The decimal numeral `digits * 10 ^ exponent`. -/
structure Decimal where
  digits : Nat
  exponent : Int
  deriving DecidableEq, Repr

namespace Magnitude

/-- Four times the distance from the number down to the end of its interval, over its last mantissa
bit: the numbers below a power of two lie closer together. -/
def gapBelow (x : Magnitude) : Nat :=
  if x.mantissa == twoPow 52 && x.exponent != 0 then 1 else 2

/-- The multiple of `10 ^ exponent` nearest to the number among those in the interval of the numbers
that round to it. Only the two multiples around the number can lie there. -/
def onGrid? (x : Magnitude) (exponent : Int) : Option Decimal :=
  let up := tenPow (-exponent).toNat
  let step := tenPow exponent.toNat * twoPow 1076
  let value := 4 * x.units * up
  let low := (4 * x.mantissa - x.gapBelow) * twoPow x.exponent * up
  let high := (4 * x.mantissa + 2) * twoPow x.exponent * up
  let isInside (digits : Nat) : Bool :=
    if x.mantissa % 2 == 0 then low ≤ digits * step && digits * step ≤ high
    else low < digits * step && digits * step < high
  let nearest := roundHalfEven value step
  let other := if nearest * step ≤ value then nearest + 1 else nearest - 1
  if isInside nearest then some ⟨nearest, exponent⟩
  else if isInside other then some ⟨other, exponent⟩
  else none

/-- The exponents of ten that a shortest numeral can have, the largest first. -/
def exponents : List Int := (List.range 700).map fun i : Nat ↦ 310 - (i : Int)

/-- The shortest numeral that reads back to the number. -/
def shortest? (x : Magnitude) : Option Decimal := exponents.findSome? x.onGrid?

end Magnitude

/-- The decimal digits of a number. -/
def decimalDigits (n : Nat) : List Char := Nat.toDigits 10 n

/-- The decimal spelling of an integer. -/
def integerText : Int → List Char
  | .ofNat n => decimalDigits n
  | .negSucc n => '-' :: decimalDigits (n + 1)

namespace Decimal

/-- The numeral with a point: `12.5`, `100.0`, `0.001`. -/
def positional (d : Decimal) : List Char :=
  let digits := decimalDigits d.digits
  match d.exponent with
  | .ofNat zeros => digits ++ List.replicate zeros '0' ++ ['.', '0']
  | .negSucc places =>
    let places := places + 1
    if places < digits.length then
      digits.take (digits.length - places) ++ '.' :: digits.drop (digits.length - places)
    else '0' :: '.' :: List.replicate (places - digits.length) '0' ++ digits

/-- The numeral with one digit before the point and a signed exponent: `2.5e-8`, `1e+16`. -/
def scientific (d : Decimal) : List Char :=
  let digits := decimalDigits d.digits
  let exponent : Int := d.exponent + digits.length - 1
  let fraction := if digits.length ≤ 1 then [] else '.' :: digits.drop 1
  let sign := if exponent < 0 then [] else ['+']
  digits.take 1 ++ fraction ++ 'e' :: sign ++ integerText exponent

/-- The numeral with a point where the leading digit stands between the fifth place after the point
and the sixteenth before it, else with an exponent. -/
def text (d : Decimal) : List Char :=
  let leading : Int := d.exponent + (decimalDigits d.digits).length - 1
  if -5 ≤ leading && leading < 16 then d.positional else d.scientific

end Decimal

/-- The spelling of a number of double precision: always with a point or an exponent. -/
def Binary64.text (x : Binary64) : List Char :=
  let sign := if x.negative then ['-'] else []
  let magnitude :=
    if x.magnitude.isZero then ['0', '.', '0']
    else match x.magnitude.shortest? with
      | some d => d.text
      | none => []
  sign ++ magnitude

end ToolSchema
