/-!
# Binary floating point numbers taken apart

A finite number of 64 bits is a sign and `significand * 2 ^ exponent`. Comparison, remainder and
decimal notation are computed on this form in whole numbers.
-/

namespace Triplify.Decimal

/-- A finite number: `significand * 2 ^ exponent` with a sign. -/
structure Binary where
  negative : Bool
  significand : Nat
  exponent : Int
deriving Repr

/-- The exponent of the smallest positive number. -/
def Binary.minExponent : Int := -1074

/-- The smallest significand of the numbers with full precision. -/
def Binary.hidden : Nat := Nat.pow 2 52

/-- The sign, significand and exponent of a number; nothing for infinities and `NaN`. -/
def Binary.ofFloat? (x : Float) : Option Binary :=
  let bits := x.toBits.toNat
  let negative := bits / Nat.pow 2 63 == 1
  let exponent := bits / Nat.pow 2 52 % Nat.pow 2 11
  let fraction := bits % Nat.pow 2 52
  if exponent == 2047 then none
  else if exponent == 0 then some ⟨negative, fraction, minExponent⟩
  else some ⟨negative, fraction + hidden, Int.ofNat exponent - 1075⟩

/-- The number that a significand of at most 53 bits and an exponent stand for. -/
def Binary.toFloat (b : Binary) : Float :=
  let size := (Float.ofNat b.significand).scaleB b.exponent
  if b.negative then -size else size

/-- A whole number, and which one. -/
def integer? (x : Float) : Option Int :=
  match Binary.ofFloat? x with
  | none => none
  | some b =>
    let size? : Option Nat :=
      if 0 ≤ b.exponent then some (b.significand * Nat.pow 2 b.exponent.toNat)
      else
        let unit := Nat.pow 2 (-b.exponent).toNat
        if b.significand % unit == 0 then some (b.significand / unit) else none
    size?.map fun size => if b.negative then -Int.ofNat size else Int.ofNat size

/-- The remainder of a division truncated toward zero. It has the sign of the dividend; it is
`NaN` for an infinite dividend or a zero divisor, and the dividend for an infinite divisor. -/
def remainder (x y : Float) : Float :=
  match Binary.ofFloat? x, Binary.ofFloat? y with
  | none, _ => 0.0 / 0.0
  | some _, none => if y.isNaN then y else x
  | some a, some b =>
    if b.significand == 0 then 0.0 / 0.0
    else
      let low := min a.exponent b.exponent
      let dividend := a.significand * Nat.pow 2 (a.exponent - low).toNat
      let divisor := b.significand * Nat.pow 2 (b.exponent - low).toNat
      Binary.toFloat ⟨a.negative, dividend % divisor, low⟩

end Triplify.Decimal
