import Triplify.Text.Category
import Triplify.Text.Search
import Triplify.Text.Casing.Table
/-!
# Case mapping

The full Unicode case mappings: of single characters, and of whole texts, where a capital sigma at
the end of a word becomes a final sigma.
-/

namespace Triplify.Text.Casing

/-- A run of code points that move by the same distance: every code point from `first` to `last`,
or every second one. -/
structure Run where
  first : Nat
  last : Nat
  step : Nat
  distance : Int
deriving Inhabited

/-- Reads a run `first-last+d`, `first~last<d` or `first+d`. -/
def Run.ofWord (word : List Char) : Run :=
  let isSign := fun c => c == '+' || c == '<'
  let range := word.takeWhile (!isSign ·)
  let distance := match word.dropWhile (!isSign ·) with
    | '+' :: d => Int.ofNat (hexNumber d)
    | _ :: d => -Int.ofNat (hexNumber d)
    | [] => 0
  let isMiddle := fun c => c == '-' || c == '~'
  let first := hexNumber (range.takeWhile (!isMiddle ·))
  match range.dropWhile (!isMiddle ·) with
  | '~' :: last => ⟨first, hexNumber last, 2, distance⟩
  | _ :: last => ⟨first, hexNumber last, 1, distance⟩
  | [] => ⟨first, first, 1, distance⟩

/-- A case mapping: runs, ascending, and expansions. -/
structure Mapping where
  runs : Array Run
  expansions : List (Nat × List Char)
deriving Inhabited

/-- Reads a mapping from its two tables. -/
def Mapping.ofTables (runs expansions : String) : Mapping where
  runs := ((words runs.toList).map Run.ofWord).toArray
  expansions := (words expansions.toList).map fun word =>
    let source := word.takeWhile (· ≠ ':')
    let target := (word.dropWhile (· ≠ ':')).drop 1
    (hexNumber source, (splitAll ',' target).map fun part => Char.ofNat (hexNumber part))

/-- The last run with an index in `[lo, lo + size)` that starts at or before the code point. -/
def searchRun (runs : Array Run) (n lo size : Nat) : Option Run :=
  if _h : size = 0 then none
  else
    let half := size / 2
    match runs[lo + half]? with
    | none => searchRun runs n lo half
    | some run =>
      if n < run.first then searchRun runs n lo half
      else (searchRun runs n (lo + half + 1) (size - half - 1)).orElse fun _ => some run
termination_by size
decreasing_by all_goals omega

/-- The image of one character. -/
def Mapping.apply (m : Mapping) (c : Char) : List Char :=
  let n := c.toNat
  match searchRun m.runs n 0 m.runs.size with
  | some run =>
    if n ≤ run.last && (n - run.first) % run.step == 0 then
      [Char.ofNat (Int.toNat (Int.ofNat n + run.distance))]
    else expand m c
  | none => expand m c
where
  /-- The expansion of a character, or the character itself. -/
  expand (m : Mapping) (c : Char) : List Char :=
    ((m.expansions.find? (·.1 == c.toNat)).map (·.2)).getD [c]

/-- The mapping to lower case. -/
def lower : Mapping := .ofTables Table.lowerRuns Table.lowerExpansions

/-- The mapping to upper case. -/
def upper : Mapping := .ofTables Table.upperRuns Table.upperExpansions

end Triplify.Text.Casing

namespace Triplify.Text

/-- The lower-case form of one character. -/
def lowerChar (c : Char) : List Char :=
  if c.toNat < 128 then [c.toLower] else Casing.lower.apply c

/-- The upper-case form of one character. -/
def upperChar (c : Char) : List Char :=
  if c.toNat < 128 then [c.toUpper] else Casing.upper.apply c

/-- A cased character comes first, case-ignorable characters aside. -/
def startsCased (s : List Char) : Bool :=
  match s.dropWhile isCaseIgnorable with
  | [] => false
  | c :: _ => isCased c

/-- The lower-case form of a text, after the characters `before` it in reverse. A capital sigma is
final if a cased character comes before it and none after it. -/
def lowerFrom (before : List Char) : List Char → List Char
  | [] => []
  | c :: rest =>
    if c = 'Σ' then
      (if startsCased before && !startsCased rest then 'ς' else 'σ') :: lowerFrom (c :: before) rest
    else lowerChar c ++ lowerFrom (c :: before) rest

/-- The lower-case form of a text. -/
def lowercase (s : String) : String :=
  String.ofList (lowerFrom [] s.toList)

/-- The upper-case form of a text. -/
def uppercase (s : String) : String :=
  String.ofList (s.toList.flatMap upperChar)

end Triplify.Text
