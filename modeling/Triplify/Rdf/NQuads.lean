import Triplify.Rdf.Term
import Triplify.Text.CodeSet
/-!
# N-Triples and N-Quads

One statement a line, with the terms in full. `Quad.statement` is the line without its end.
-/

namespace Triplify.Rdf

/-- A code point of two bytes in hexadecimal digits. -/
def codePoint (n : Nat) : List Char :=
  let digits := (Nat.toDigits 16 n).map Char.toUpper
  List.replicate (4 - digits.length) '0' ++ digits

/-- A character inside of quotes. -/
def escapeChar (c : Char) : List Char :=
  match c with
  | '\x08' => ['\\', 'b']
  | '\t' => ['\\', 't']
  | '\n' => ['\\', 'n']
  | '\x0c' => ['\\', 'f']
  | '\r' => ['\\', 'r']
  | '"' => ['\\', '"']
  | '\\' => ['\\', '\\']
  | c =>
    let n := c.toNat
    if n < 0x20 || n == 0x7f || n == 0xfffe || n == 0xffff then '\\' :: 'u' :: codePoint n else [c]

/-- A text in quotes. -/
def quote (s : String) : String :=
  String.ofList ('"' :: s.toList.flatMap escapeChar ++ ['"'])

/-- An IRI in angle brackets. -/
def bracket (iri : String) : String := "<" ++ iri ++ ">"

/-- A subject in full. -/
def Subject.text : Subject → String
  | iri s => bracket s
  | blank n => s!"_:b{n}"

/-- A literal, with the given notation for its datatype. -/
def Literal.written (datatype : String → String) (l : Literal) : String :=
  match l.type with
  | .plain => quote l.text
  | .typed d => quote l.text ++ "^^" ++ datatype d
  | .tagged tag => quote l.text ++ "@" ++ tag

/-- An object in full. -/
def Term.text : Term → String
  | node s => s.text
  | literal l => l.written bracket

/-- Subject, predicate and object in full. -/
def Triple.text (t : Triple) : String :=
  t.subject.text ++ " " ++ bracket t.predicate ++ " " ++ t.object.text

/-- Subject, predicate and object. -/
def Quad.triple (q : Quad) : String := q.toTriple.text

/-- Subject, predicate and object, and the graph if it has a name. -/
def Quad.statement (q : Quad) : String :=
  match q.graph with
  | none => q.triple
  | some g => q.triple ++ " " ++ bracket g

/-- One line for each statement. -/
def lines (statements : List String) : String :=
  String.join (statements.map (· ++ " .\n"))

/-- The statements without their graphs. -/
def nTriples (triples : List Triple) : String := lines (triples.map Triple.text)

/-- The statements with their graphs. -/
def nQuads (quads : List Quad) : String := lines (quads.map Quad.statement)

end Triplify.Rdf
