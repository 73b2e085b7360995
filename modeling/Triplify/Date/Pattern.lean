import Triplify.Date.Calendar
import Triplify.Text.Blank
/-!
# Reading dates

A pattern is a list of parts that are read one after the other. Numbers may have white space in
front; month names are English, short or long, in any case; a space stands for any white space, also
none.
-/

namespace Triplify.Date

/-- A part of a pattern. -/
inductive Part
  | year
  | month
  | monthName
  | day
  | space
  | mark (c : Char)
deriving Repr, DecidableEq

/-- The fields read so far. -/
structure Fields where
  year : Int := 0
  month : Nat := 0
  day : Nat := 0

/-- Reads at least one and at most `max` ASCII digits. -/
def digits? (max : Nat) (s : List Char) : Option (Nat × List Char) :=
  let digits := (s.take max).takeWhile Char.isDigit
  if digits.isEmpty then none
  else some (digits.foldl (fun n c => n * 10 + (c.toNat - 48)) 0, s.drop digits.length)

/-- Reads a year: up to four digits, or a sign and any number of digits. -/
def year? : List Char → Option (Int × List Char)
  | '-' :: r => (digits? r.length r).map fun (n, rest) => (-Int.ofNat n, rest)
  | '+' :: r => (digits? r.length r).map fun (n, rest) => (Int.ofNat n, rest)
  | r => (digits? 4 r).map fun (n, rest) => (Int.ofNat n, rest)

/-- The English months. -/
def monthNames : List String :=
  ["january", "february", "march", "april", "may", "june", "july", "august", "september",
    "october", "november", "december"]

/-- The rest of a text after a word, in any case. -/
def dropWord? (word s : List Char) : Option (List Char) :=
  if (s.take word.length).map Char.toLower = word then some (s.drop word.length) else none

/-- Reads the name of a month, its first three letters or all of it. -/
def monthName? (s : List Char) : Option (Nat × List Char) :=
  monthNames.zipIdx.findSome? fun (name, i) =>
    (dropWord? (name.toList.take 3) s).map fun rest =>
      (i + 1, (dropWord? (name.toList.drop 3) rest).getD rest)

/-- Reads one part. -/
def Part.read? (p : Part) (f : Fields) (s : List Char) : Option (Fields × List Char) :=
  let trimmed := s.dropWhile Text.isBlank
  match p with
  | year => (year? trimmed).map fun (y, rest) => ({ f with year := y }, rest)
  | month => (digits? 2 trimmed).map fun (m, rest) => ({ f with month := m }, rest)
  | day => (digits? 2 trimmed).map fun (d, rest) => ({ f with day := d }, rest)
  | monthName => (monthName? s).map fun (m, rest) => ({ f with month := m }, rest)
  | space => some (f, trimmed)
  | mark c => match s with
    | [] => none
    | d :: rest => if d = c then some (f, rest) else none

/-- Reads a date that is written as the pattern says, to the end of the text. -/
def read? (pattern : List Part) (s : List Char) : Option Date :=
  go pattern {} s
where
  /-- Reads the remaining parts. -/
  go : List Part → Fields → List Char → Option Date
    | [], f, [] => of? f.year f.month f.day
    | [], _, _ :: _ => none
    | p :: rest, f, s => match p.read? f s with
      | none => none
      | some (f, s) => go rest f s

/-- The notations of dates, in the order in which they are tried. -/
def patterns : List (List Part) :=
  [[.day, .space, .monthName, .space, .year],
   [.year, .mark '-', .month, .mark '-', .day],
   [.year, .mark '/', .month, .mark '/', .day],
   [.day, .mark '/', .month, .mark '/', .year],
   [.day, .mark '-', .month, .mark '-', .year],
   [.monthName, .space, .day, .mark ',', .space, .year],
   [.day, .mark '.', .month, .mark '.', .year]]

/-- The date that a text writes in one of the notations. -/
def ofText? (s : String) : Option Date :=
  patterns.findSome? fun pattern => read? pattern s.toList

end Triplify.Date
