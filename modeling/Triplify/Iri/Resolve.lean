import Triplify.Iri.Parts
/-!
# Resolving references

A relative reference names an IRI from the place of another one, its base (RFC 3986, section 5).
-/

namespace Triplify.Iri

/-- Takes back the segment that was written last. One segment is always left, for the slash. -/
def dropSegment : List (List Char) → List (List Char)
  | _ :: a :: rest => a :: rest
  | _ => [[]]

/-- Writes segments after those that are written already, last first. A single dot stays where it
is, two dots take a segment back; at the end both leave an empty segment. -/
def writeSegments (done : List (List Char)) : List (List Char) → List (List Char)
  | [] => done
  | s :: rest =>
    if s = ['.'] then writeSegments (if rest.isEmpty then [] :: done else done) rest
    else if s = ['.', '.'] then
      writeSegments (if rest.isEmpty then [] :: dropSegment done else dropSegment done) rest
    else writeSegments (s :: done) rest

/-- The first segments without those that are dots. -/
def dropLeadingDots : List (List Char) → List (List Char)
  | s :: rest => if s = ['.'] || s = ['.', '.'] then dropLeadingDots rest else s :: rest
  | [] => []

/-- A path without dot segments. -/
def removeDots (path : List Char) : List Char :=
  match dropLeadingDots (Text.splitAll '/' path) with
  | [] => []
  | first :: rest => ['/'].intercalate (writeSegments [first] rest).reverse

/-- The path of a base up to its last slash. -/
def directory (path : List Char) : List Char :=
  (path.reverse.dropWhile (· ≠ '/')).reverse

/-- The path of a reference put in place of the last segment of the path of the base. -/
def mergePaths (base : IriParts) (path : List Char) : List Char :=
  if base.authority.isSome && base.path.isEmpty then '/' :: path
  else directory base.path ++ path

/-- The parts that a reference without a scheme stands for. -/
def target (base ref : IriParts) : IriParts :=
  if ref.authority.isSome then
    ⟨base.scheme, ref.authority, removeDots ref.path, ref.query, ref.fragment⟩
  else if ref.path.isEmpty then
    ⟨base.scheme, base.authority, base.path, ref.query.orElse fun _ => base.query, ref.fragment⟩
  else if ref.path.head? = some '/' then
    ⟨base.scheme, base.authority, removeDots ref.path, ref.query, ref.fragment⟩
  else
    ⟨base.scheme, base.authority, removeDots (mergePaths base ref.path), ref.query, ref.fragment⟩

/-- A path that starts with two slashes would be read as an authority. -/
def isAmbiguous (p : IriParts) : Bool :=
  p.authority.isNone && ['/', '/'].isPrefixOf p.path

/-- The IRI that a reference stands for. -/
def resolve? (base ref : List Char) : Option (List Char) :=
  let p := target (split base) (split ref)
  if isRelative ref && !isAmbiguous p && isAbsolute p.text then some p.text else none

/-- The IRI that a text stands for: itself if it has a scheme, or the IRI it names from the base. -/
def ofText? (base : Option String) (s : String) : Option String :=
  let chars := s.toList
  if isAbsolute chars then some s
  else base.bind fun b => (resolve? b.toList chars).map String.ofList

end Triplify.Iri
