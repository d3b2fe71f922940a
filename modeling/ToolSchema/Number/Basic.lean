import ToolSchema.Number.Shortest

/-!
# Numbers

A number is an integer of 64 bits or a number of double precision. An integer that is not negative
has all 64 bits for its value, a negative one has a sign bit: `Integer64` holds exactly the integers
of the two ranges.
-/

namespace ToolSchema

/-- An integer that fits 64 bits, unsigned if it is not negative and signed if it is. -/
structure Integer64 where
  value : Int
  lower : -9223372036854775808 ≤ value
  upper : value < 18446744073709551616
  deriving DecidableEq, Repr

namespace Integer64

/-- The integer, if it fits. -/
def ofInt? (i : Int) : Option Integer64 :=
  if h : -9223372036854775808 ≤ i ∧ i < 18446744073709551616 then some ⟨i, h.1, h.2⟩ else none

/-- An unsigned word. -/
def ofUInt64 (n : UInt64) : Integer64 :=
  ⟨n.toNat, by omega, by have := n.toNat_lt; omega⟩

/-- An unsigned half word. -/
def ofUInt32 (n : UInt32) : Integer64 :=
  ⟨n.toNat, by omega, by have := n.toNat_lt; omega⟩

/-- The decimal spelling. -/
def text (i : Integer64) : List Char := integerText i.value

@[ext] theorem ext_value {i j : Integer64} (h : i.value = j.value) : i = j := by
  cases i
  cases j
  cases h
  rfl

instance : Inhabited Integer64 := ⟨⟨0, by decide, by decide⟩⟩

end Integer64

/-- A number as texts spell it: an integer, or a number of double precision. -/
inductive Number where
  | integer (value : Integer64)
  | double (value : Binary64)
  deriving DecidableEq, Repr, Inhabited

/-- The spelling of a number. A double precision number shows a point or an exponent, an integer
neither. -/
def Number.text : Number → List Char
  | .integer i => i.text
  | .double x => x.text

end ToolSchema
