import Triplify.Decimal.Shortest
/-!
# The text of a number

`plain` writes a number for people and for arithmetic texts, never with an exponent. `rounded`
writes whole numbers of moderate size without a fraction. `detailed` always shows that the number
is no integer type, and uses an exponent for very large and very small numbers.
-/

namespace Triplify.Decimal

/-- The sign of a number, as it is written in front of its digits. -/
def sign (b : Binary) : String :=
  if b.negative then "-" else ""

/-- The shortest decimal without an exponent. -/
def plain (x : Float) : String :=
  match Binary.ofFloat? x with
  | some b => sign b ++ (shortest b).positional
  | none => if x.isNaN then "NaN" else if x < 0 then "-Infinity" else "Infinity"

/-- Whole numbers below `2 ^ 63` in size are written as integers, others as `plain` does. -/
def rounded (x : Float) : String :=
  match integer? x with
  | some i => if i.natAbs < Nat.pow 2 63 then toString i else plain x
  | none => plain x

/-- A whole number ends in `.0`; there is an exponent from `10 ^ 16` on and below `10 ^ -4`. -/
def detailed (x : Float) : String :=
  match Binary.ofFloat? x with
  | none => if x.isNaN then "NaN" else if x < 0 then "-inf" else "inf"
  | some b =>
    let d := shortest b
    let magnitude := d.exponent + Int.ofNat (digitCount d.digits)
    let text :=
      if d.digits ≠ 0 && (16 < magnitude || magnitude < -3) then d.scientific
      else if 0 ≤ d.exponent then d.positional ++ ".0"
      else d.positional
    sign b ++ text

end Triplify.Decimal
