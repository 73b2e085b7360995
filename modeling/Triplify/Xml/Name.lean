import Triplify.Text.CodeSet
import Triplify.Text.Search
/-!
# Characters and names of XML

The character classes of XML 1.0 and reading names. A name without colons may follow a label and a
colon; together they are a tag or attribute name.
-/

namespace Triplify.Xml

/-- White space in markup. -/
def isSpace (c : Char) : Bool := c == ' ' || c == '\t' || c == '\n' || c == '\r'

/-- The characters that a text of XML 1.0 may hold. -/
def isChar (c : Char) : Bool :=
  let n := c.toNat
  n == 9 || n == 10 || n == 13 || (0x20 ≤ n && n ≠ 0xfffe && n ≠ 0xffff)

/-- The first characters of names, the colon apart. -/
def isNameStart (c : Char) : Bool :=
  let n := c.toNat
  c.isAlpha || c == '_' || (0xc0 ≤ n && n ≤ 0x2ff && n ≠ 0xd7 && n ≠ 0xf7) ||
    (0x370 ≤ n && n ≤ 0x1fff && n ≠ 0x37e) || n == 0x200c || n == 0x200d ||
    (0x2070 ≤ n && n ≤ 0x218f) || (0x2c00 ≤ n && n ≤ 0x2fef) || (0x3001 ≤ n && n ≤ 0xd7ff) ||
    (0xf900 ≤ n && n ≤ 0xfdcf) || (0xfdf0 ≤ n && n ≤ 0xfffd) || (0x10000 ≤ n && n ≤ 0xeffff)

/-- The characters of names after the first, the colon apart. -/
def isNameChar (c : Char) : Bool :=
  let n := c.toNat
  isNameStart c || c.isDigit || c == '-' || c == '.' || n == 0xb7 || (0x300 ≤ n && n ≤ 0x36f) ||
    n == 0x203f || n == 0x2040

/-- The text after white space. -/
def skipSpace (s : List Char) : List Char := s.dropWhile isSpace

/-- Reads a name without colons. -/
def plainName? : List Char → Option (String × List Char)
  | [] => none
  | c :: rest =>
    if isNameStart c then
      some (String.ofList (c :: rest.takeWhile isNameChar), rest.dropWhile isNameChar)
    else none

/-- Reads a name that may hold colons. -/
def colonName? : List Char → Option (String × List Char)
  | [] => none
  | c :: rest =>
    let isPart := fun (d : Char) => isNameChar d || d == ':'
    if isNameStart c || c == ':' then
      some (String.ofList (c :: rest.takeWhile isPart), rest.dropWhile isPart)
    else none

/-- The name of a tag or an attribute as it is written. -/
structure TagName where
  label : Option String
  localName : String
deriving Repr, DecidableEq

/-- Reads the name of a tag or an attribute. -/
def TagName.read? (s : List Char) : Option (TagName × List Char) :=
  match plainName? s with
  | none => none
  | some (first, rest) =>
    match rest with
    | ':' :: more =>
      match plainName? more with
      | some (second, rest) => some (⟨some first, second⟩, rest)
      | none => none
    | _ => some (⟨none, first⟩, rest)

end Triplify.Xml
