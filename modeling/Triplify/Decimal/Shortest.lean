import Triplify.Decimal.Binary
/-!
# The shortest decimal of a number

A positive number stands for every real that rounds to it. Among the decimals in that interval
`shortest` takes those with the fewest digits, and of those the nearest to the number.
-/

namespace Triplify.Decimal

/-- The decimal `digits * 10 ^ exponent`. -/
structure Digits where
  digits : Nat
  exponent : Int
deriving Repr, Inhabited

/-- An interval of reals around a value, all over one denominator. The ends belong to it if
`closed`. -/
structure Interval where
  low : Nat
  value : Nat
  high : Nat
  denominator : Nat
  closed : Bool

/-- The reals that round to a positive number. -/
def Interval.of (b : Binary) : Interval :=
  -- In quarters of the last place; the gap below a power of two is half the gap above.
  let narrow := b.significand == Binary.hidden && b.exponent > Binary.minExponent
  let low := b.significand * 4 - (if narrow then 1 else 2)
  let value := b.significand * 4
  let high := b.significand * 4 + 2
  let closed := b.significand % 2 == 0
  let power := b.exponent - 2
  if 0 ≤ power then
    let scale := Nat.pow 2 power.toNat
    ⟨low * scale, value * scale, high * scale, 1, closed⟩
  else ⟨low, value, high, Nat.pow 2 (-power).toNat, closed⟩

/-- The decimal `d * 10 ^ e` lies in the interval. -/
def Interval.contains (i : Interval) (d : Nat) (e : Int) : Bool :=
  let point := if 0 ≤ e then d * Nat.pow 10 e.toNat * i.denominator else d * i.denominator
  let scale := if 0 ≤ e then 1 else Nat.pow 10 (-e).toNat
  if i.closed then i.low * scale ≤ point && point ≤ i.high * scale
  else i.low * scale < point && point < i.high * scale

/-- The multiple of `10 ^ e` at or below the value, and whether the value is nearer to it than to
the next one; a tie goes to the even multiple. -/
def Interval.floor (i : Interval) (e : Int) : Nat × Bool :=
  let num := if 0 ≤ e then i.value else i.value * Nat.pow 10 (-e).toNat
  let den := if 0 ≤ e then i.denominator * Nat.pow 10 e.toNat else i.denominator
  let below := num / den
  let twice := 2 * (num % den)
  (below, twice < den || (twice == den && below % 2 == 0))

/-- The number of decimal digits. -/
def digitCount (n : Nat) : Nat :=
  (Nat.toDigits 10 n).length

/-- An exponent `k` with `10 ^ (k - 1) ≤ value < 10 ^ k`. -/
def Interval.magnitude (i : Interval) : Int :=
  if i.denominator ≤ i.value then Int.ofNat (digitCount (i.value / i.denominator))
  else
    -- With `10 ^ (j - 1) ≤ denominator / value < 10 ^ j`, the value is above `10 ^ -j`.
    let j := digitCount (i.denominator / i.value)
    if i.value * Nat.pow 10 (j - 1) == i.denominator then 2 - Int.ofNat j else 1 - Int.ofNat j

/-- The first grid, of `count`, `count + 1`, … digits, with a point in the interval. -/
def Interval.search (i : Interval) (k : Int) : Nat → Nat → Digits
  | 0, count => ⟨(i.floor (k - Int.ofNat count)).1, k - Int.ofNat count⟩
  | fuel + 1, count =>
    let e := k - Int.ofNat count
    let (below, lowerIsNearer) := i.floor e
    let lowerIn := below ≠ 0 && i.contains below e
    let upperIn := i.contains (below + 1) e
    if lowerIn && (lowerIsNearer || !upperIn) then ⟨below, e⟩
    else if upperIn then ⟨below + 1, e⟩
    else i.search k fuel (count + 1)

/-- Moves zeros at the end of the digits into the exponent. -/
def Digits.strip (d : Digits) : Digits :=
  if h : d.digits = 0 then ⟨0, 0⟩
  else if d.digits % 10 = 0 then Digits.strip ⟨d.digits / 10, d.exponent + 1⟩
  else d
termination_by d.digits
decreasing_by omega

/-- The shortest decimal that reads back as the number, without its sign. -/
def shortest (b : Binary) : Digits :=
  if b.significand = 0 then ⟨0, 0⟩
  else
    let i := Interval.of b
    (i.search i.magnitude 16 1).strip

/-- The digits in positional notation, never with an exponent. -/
def Digits.positional (d : Digits) : String :=
  let digits := toString d.digits
  if 0 ≤ d.exponent then digits ++ String.ofList (List.replicate d.exponent.toNat '0')
  else
    let places := (-d.exponent).toNat
    let padded := List.replicate (places + 1 - digits.length) '0' ++ digits.toList
    let whole := padded.take (padded.length - places)
    let part := padded.drop (padded.length - places)
    String.ofList (whole ++ '.' :: part)

/-- The digits with an exponent after the first digit. -/
def Digits.scientific (d : Digits) : String :=
  let digits := (toString d.digits).toList
  let exponent := d.exponent + Int.ofNat digits.length - 1
  let part := digits.drop 1
  String.ofList (digits.take 1 ++ (if part.isEmpty then [] else '.' :: part)) ++ "e" ++
    toString exponent

end Triplify.Decimal
