/-!
# Double precision numbers

Finite binary numbers of 53 significant bits, held exactly: a sign, a mantissa and an exponent that
counts from the least one. Every operation is the exact rational one followed by `nearest?`, which
rounds to the nearest number, to the even mantissa in the middle, and refuses what is too large.

`Magnitude.ofDecimal?` reads a decimal numeral in the way of a fast reader: the significand becomes a
number first and is then scaled by one power of ten. Its result may be one step off the nearest
number, because it rounds twice.
-/

namespace ToolSchema

/-- Two to the power `k`. -/
def twoPow (k : Nat) : Nat := Nat.pow 2 k

/-- Ten to the power `k`. -/
def tenPow (k : Nat) : Nat := Nat.pow 10 k

/-- A finite number without its sign: `mantissa * 2 ^ exponent / 2 ^ 1074`. The mantissa has 53 bits,
or fewer where the exponent is zero. -/
structure Magnitude where
  mantissa : Nat
  exponent : Nat
  deriving DecidableEq, Repr, Inhabited

/-- A finite number of double precision. Zero has two forms, by its sign. -/
structure Binary64 where
  negative : Bool
  magnitude : Magnitude
  deriving DecidableEq, Repr, Inhabited

/-- The quotient rounded to the nearest integer, in the middle to the even one. -/
def roundHalfEven (num den : Nat) : Nat :=
  let floor := num / den
  let twice := 2 * (num % den)
  if twice < den then floor
  else if den < twice then floor + 1
  else floor + floor % 2

namespace Magnitude

/-- The numerator of the number over the denominator `2 ^ 1074`. -/
def units (x : Magnitude) : Nat := x.mantissa * twoPow x.exponent

/-- The number is zero. -/
def isZero (x : Magnitude) : Bool := x.mantissa == 0

/-- The number nearest to a quotient; none if the quotient rounds to `2 ^ 1024` or more. -/
def nearest? (num den : Nat) : Option Magnitude :=
  let scaled := num * twoPow 1074
  let shift := Nat.log2 (scaled / den) - 52
  let mantissa := roundHalfEven scaled (den * twoPow shift)
  let x : Magnitude :=
    if mantissa == twoPow 53 then ⟨twoPow 52, shift + 1⟩ else ⟨mantissa, shift⟩
  if x.exponent ≤ 2045 then some x else none

/-- The product, rounded. -/
def mul? (x y : Magnitude) : Option Magnitude := nearest? (x.units * y.units) (twoPow 2148)

/-- The quotient, rounded. -/
def div? (x y : Magnitude) : Option Magnitude := nearest? x.units y.units

/-- Divides by ten to the power `k`. A power beyond 308 has no number of its own, so that such a
division starts with one by `10 ^ 308`. -/
def divPow10? (x : Magnitude) (k : Nat) : Option Magnitude :=
  if k ≤ 308 then do x.div? (← nearest? (tenPow k) 1)
  else if x.isZero then some x
  else do divPow10? (← x.div? (← nearest? (tenPow 308) 1)) (k - 308)
termination_by k

/-- Multiplies by ten to the power `k`. -/
def mulPow10? (x : Magnitude) (k : Nat) : Option Magnitude :=
  if k ≤ 308 then do x.mul? (← nearest? (tenPow k) 1)
  else if x.isZero then some x
  else none

/-- The number of the decimal numeral `significand * 10 ^ exponent`, rounded once for the significand
and once for its scaling; none if it is too large. -/
def ofDecimal? (significand : Nat) (exponent : Int) : Option Magnitude := do
  let x ← nearest? significand 1
  match exponent with
  | .ofNat k => x.mulPow10? k
  | .negSucc k => x.divPow10? (k + 1)

end Magnitude

end ToolSchema
