import Triplify.Transform
import Triplify.Date.Pattern
import Triplify.Decimal.Text
import Triplify.Text.Category
/-!
# Transforms for museum collections

Encoded keys, units, dates and the case of titles.
-/

namespace Triplify.Collections

/-- Underscores in place of spaces and full stops, then trimmed. -/
def encodeValue (s : String) : String :=
  Text.trim (String.ofList (s.toList.map fun c => if c = ' ' || c = '.' then '_' else c))

/-- A thousandth of a number; nothing is left of other texts. -/
def toMilliunit (s : String) : String :=
  match Decimal.number? (Text.trim s) with
  | some x => Decimal.rounded (x / 1000.0)
  | none => ""

/-- An integer in at least four characters, its sign included. -/
def yearText (y : Int) : String :=
  let digits := toString y.natAbs
  let marked := if y < 0 then 3 else 4
  (if y < 0 then "-" else "") ++
    String.ofList (List.replicate (marked - digits.length) '0') ++ digits

/-- A year alone, before or after the start of the era, with a fixed month and day. -/
def productionDate (monthDay s : String) : String :=
  let beforeEra := Text.occurs "bc".toList (Text.lowercase (Text.trim s)).toList
  let year := if beforeEra then
      (s.toList.dropWhile (!Text.isDecimalDigit ·)).takeWhile Text.isDecimalDigit
    else Text.trimChars s.toList
  match Decimal.int32? (String.ofList year) with
  | some y => (if beforeEra then "-" else "") ++ yearText y ++ "-" ++ monthDay
  | none => ""

/-- A full date in one of the known notations. -/
def acquisitionDate (s : String) : String :=
  match Date.ofText? (Text.trim s) with
  | some d => d.iso
  | none => ""

/-- A date for the schema type `xsd:date`. A year alone gets the given month and day. -/
def xsdDate (monthDay s : String) : String :=
  let chars := s.toList
  if chars.isEmpty then ""
  else if Text.occurs "BC".toList chars || Text.occurs "thC".toList chars || chars.length = 4 then
    productionDate monthDay s
  else acquisitionDate s

/-- A word with a capital at its start. Words without small letters stay as they are. -/
def titleWord (word : List Char) : List Char :=
  if word.any Text.isAlphabetic && !word.any Text.isLowercase then word
  else match word with
    | [] => []
    | c :: rest => Text.upperChar c ++ rest.flatMap Text.lowerChar

/-- Capitals at the starts of words; white space stays as it is. -/
def titleCase (fuel : Nat) (s : List Char) : List Char :=
  match fuel with
  | 0 => s
  | fuel + 1 =>
    let space := s.takeWhile Text.isBlank
    let rest := s.dropWhile Text.isBlank
    let word := rest.takeWhile (!Text.isBlank ·)
    if word.isEmpty then space
    else space ++ titleWord word ++ titleCase fuel (rest.drop word.length)

/-- The transform of a name. -/
def lookup : String → Option Transform
  | "encodevalue" => some encodeValue
  | "unittomilliunit" => some toMilliunit
  | "formatearliestdateasxsddate" => some (xsdDate "01-01")
  | "formatlatestdateasxsddate" => some (xsdDate "12-31")
  | "settitlecase" => some fun s => String.ofList (titleCase (s.length + 1) s.toList)
  | _ => none

/-- The provider of these transforms. -/
def provider : Provider := ⟨"collections", lookup⟩

end Triplify.Collections
