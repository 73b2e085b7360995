import Triplify.Text.Blank
/-!
# Reading numbers

Integers are an optional sign and ASCII digits, within the range asked for. Numbers have an
optional sign, digits with an optional point anywhere among them, and an optional exponent; the
names of infinity and `NaN` are read in any case.
-/

namespace Triplify.Decimal

/-- The value of a text of ASCII digits; nothing if it is empty or holds another character. -/
def natural? (s : List Char) : Option Nat :=
  if s.isEmpty || !s.all Char.isDigit then none
  else some (s.foldl (fun n c => n * 10 + (c.toNat - 48)) 0)

/-- An integer of at least `low` and at most `high`. A minus sign is read only if negative numbers
are in range. -/
def integerBetween? (low high : Int) (s : List Char) : Option Int :=
  let value? : Option Int := match s with
    | '+' :: digits => (natural? digits).map Int.ofNat
    | '-' :: digits => if low < 0 then (natural? digits).map fun n => -Int.ofNat n else none
    | digits => (natural? digits).map Int.ofNat
  value?.filter fun v => low ≤ v && v ≤ high

/-- A signed integer of 64 bits. -/
def int64? (s : String) : Option Int :=
  integerBetween? (-Int.ofNat (Nat.pow 2 63)) (Int.ofNat (Nat.pow 2 63) - 1) s.toList

/-- A signed integer of 32 bits. -/
def int32? (s : String) : Option Int :=
  integerBetween? (-Int.ofNat (Nat.pow 2 31)) (Int.ofNat (Nat.pow 2 31) - 1) s.toList

/-- An unsigned integer of 64 bits. -/
def unsigned64? (s : String) : Option Nat :=
  (integerBetween? 0 (Int.ofNat (Nat.pow 2 64) - 1) s.toList).map Int.toNat

/-- The number nearest to `digits * 10 ^ exponent`. -/
def ofDigits (digits : Nat) (exponent : Int) : Float :=
  -- Beyond these sizes the result is certain, and no power of ten needs to be computed.
  let magnitude := exponent + Int.ofNat (Nat.toDigits 10 digits).length
  if digits == 0 || magnitude < -400 then 0.0
  else if magnitude > 400 then 1.0 / 0.0
  else Float.ofScientific digits (exponent < 0) exponent.natAbs

/-- Reads digits, a point and an exponent. -/
def unsigned? (s : List Char) : Option Float :=
  let whole := s.takeWhile Char.isDigit
  let rest := s.dropWhile Char.isDigit
  let (part, rest) := match rest with
    | '.' :: r => (r.takeWhile Char.isDigit, r.dropWhile Char.isDigit)
    | r => ([], r)
  let exponent? : Option Int := match rest with
    | [] => some 0
    | c :: r => if c == 'e' || c == 'E' then signed? r else none
  match natural? (whole ++ part), exponent? with
  | some digits, some e => some (ofDigits digits (e - Int.ofNat part.length))
  | _, _ => none
where
  /-- An exponent of any size, with an optional sign. -/
  signed? : List Char → Option Int
    | '-' :: r => (natural? r).map fun n => -Int.ofNat n
    | '+' :: r => (natural? r).map Int.ofNat
    | r => (natural? r).map Int.ofNat

/-- Reads a number. -/
def number? (s : String) : Option Float :=
  let read := fun (r : List Char) =>
    let name := String.ofList (r.map Char.toLower)
    if name == "inf" || name == "infinity" then some (1.0 / 0.0)
    else if name == "nan" then some (0.0 / 0.0)
    else unsigned? r
  match s.toList with
  | '-' :: r => (read r).map Float.neg
  | '+' :: r => read r
  | r => read r

end Triplify.Decimal
