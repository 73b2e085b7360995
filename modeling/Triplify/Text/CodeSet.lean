/-!
# Sets of code points

A set of code points as ascending runs, searched by halving, and the reader for its written form:
runs `first-last` or single code points, in hexadecimal, separated by white space.
-/

namespace Triplify.Text

/-- Runs of code points, ascending and apart. -/
structure CodeSet where
  runs : Array (Nat × Nat)
deriving Inhabited

namespace CodeSet

/-- Whether one of the runs with an index in `[lo, lo + size)` holds the code point. -/
def search (runs : Array (Nat × Nat)) (n lo size : Nat) : Bool :=
  if _h : size = 0 then false
  else
    let half := size / 2
    match runs[lo + half]? with
    | none => search runs n lo half
    | some (first, last) =>
      if n < first then search runs n lo half
      else if n ≤ last then true
      else search runs n (lo + half + 1) (size - half - 1)
termination_by size
decreasing_by all_goals omega

/-- The character is in the set. -/
def contains (s : CodeSet) (c : Char) : Bool :=
  search s.runs c.toNat 0 s.runs.size

end CodeSet

/-- The value of a hexadecimal digit. -/
def hexDigit? (c : Char) : Option Nat :=
  let n := c.toNat
  if 48 ≤ n && n ≤ 57 then some (n - 48)
  else if 97 ≤ n && n ≤ 102 then some (n - 87)
  else if 65 ≤ n && n ≤ 70 then some (n - 55)
  else none

/-- The number that a text of hexadecimal digits writes; other characters count as zero. -/
def hexNumber (s : List Char) : Nat :=
  s.foldl (fun acc c => acc * 16 + (hexDigit? c).getD 0) 0

/-- The words of a text, that is its parts between white space. -/
def words (s : List Char) : List (List Char) :=
  go s []
where
  /-- The words of the rest, after the characters of an open word in reverse. -/
  go : List Char → List Char → List (List Char)
    | [], [] => []
    | [], word => [word.reverse]
    | c :: rest, word =>
      if c.isWhitespace then
        if word.isEmpty then go rest [] else word.reverse :: go rest []
      else go rest (c :: word)

namespace CodeSet

/-- Reads the written form of a set. -/
def ofText (s : String) : CodeSet :=
  ⟨((words s.toList).map fun word =>
    let first := hexNumber (word.takeWhile (· ≠ '-'))
    match word.dropWhile (· ≠ '-') with
    | [] => (first, first)
    | _ :: last => (first, hexNumber last)).toArray⟩

end CodeSet

end Triplify.Text
