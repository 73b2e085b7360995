import Triplify.Rdf.NQuads
import Triplify.Xml.Name
/-!
# Turtle and TriG

Statements in the order of the graph. A statement that shares its subject, or its subject and
predicate, with the one before is written without them. IRIs are shortened with the first
declaration that leaves a local name. Declarations come first, those of long namespaces before those
of short ones. Nothing is written if there is no statement.
-/

namespace Triplify.Rdf.Turtle

/-- Declarations in the order in which they are written. -/
abbrev Declarations := List (String × String)

/-- A longer namespace comes first; of namespaces of one length the order of labels counts. -/
def le (a b : String × String) : Bool :=
  let m := a.2.utf8ByteSize
  let n := b.2.utf8ByteSize
  n < m || (m == n && (a.1 < b.1 || a.1 == b.1))

/-- The declarations of a table. -/
def declarations (table : NamespaceTable) : Declarations :=
  table.bindings.mergeSort le

/-- The characters that a backslash can stand before in a local name. -/
def isEscapable (c : Char) : Bool :=
  "_~.-!$&'()*+,;=/?#@%".toList.contains c

/-- The characters of local names that need no backslash, the point apart. -/
def isLocalChar (c : Char) : Bool :=
  (Xml.isNameChar c && c ≠ '.') || c == ':'

/-- The characters after the first, a point only if another character follows. -/
def escapeRest? : List Char → Option (List Char)
  | [] => some []
  | c :: rest =>
    match escapeRest? rest with
    | none => none
    | some escaped =>
      if isLocalChar c || (c == '.' && !rest.isEmpty) then some (c :: escaped)
      else if isEscapable c then some ('\\' :: c :: escaped)
      else none

/-- The local name with its backslashes, if there is such a local name. -/
def escapeLocal? : List Char → Option (List Char)
  | [] => some []
  | c :: rest =>
    match escapeRest? rest with
    | none => none
    | some escaped =>
      if Xml.isNameStart c || c == ':' || c.isDigit then some (c :: escaped)
      else if isEscapable c then some ('\\' :: c :: escaped)
      else none

/-- An IRI, shortened if possible. -/
def name (ds : Declarations) (iri : String) : String :=
  let short? := ds.findSome? fun (label, namespaceIri) =>
    ((namespaceIri.toList.isPrefixOf? iri.toList).bind escapeLocal?).map fun localName =>
      label ++ ":" ++ String.ofList localName
  short?.getD (bracket iri)

/-- Drops one sign. -/
def dropSign : List Char → List Char
  | '+' :: rest => rest
  | '-' :: rest => rest
  | s => s

/-- At least one digit and nothing else. -/
def areDigits (s : List Char) : Bool := !s.isEmpty && s.all Char.isDigit

/-- The text of an integer. -/
def isInteger (s : List Char) : Bool := areDigits (dropSign s)

/-- The text of a decimal number: a point with digits after it. -/
def isDecimal (s : List Char) : Bool :=
  match (dropSign s).dropWhile Char.isDigit with
  | '.' :: digits => areDigits digits
  | _ => false

/-- An exponent. -/
def isExponent : List Char → Bool
  | c :: rest => (c == 'e' || c == 'E') && areDigits (dropSign rest)
  | [] => false

/-- The text of a number with an exponent: digits before or after a point, or without one. -/
def isDouble (s : List Char) : Bool :=
  let whole := (dropSign s).takeWhile Char.isDigit
  match (dropSign s).dropWhile Char.isDigit with
  | '.' :: rest =>
    (!whole.isEmpty || rest.head?.any Char.isDigit) && isExponent (rest.dropWhile Char.isDigit)
  | rest => !whole.isEmpty && isExponent rest

/-- The text of a datatype that can be written without quotes. -/
def isBare (datatype : String) (text : List Char) : Bool :=
  if datatype == schemaNamespace ++ "boolean" then
    text == "true".toList || text == "false".toList
  else if datatype == schemaNamespace ++ "integer" then isInteger text
  else if datatype == schemaNamespace ++ "decimal" then isDecimal text
  else if datatype == schemaNamespace ++ "double" then isDouble text
  else false

/-- A subject. -/
def subject (ds : Declarations) : Subject → String
  | .iri s => name ds s
  | .blank n => s!"_:b{n}"

/-- A predicate. -/
def predicate (ds : Declarations) (iri : String) : String :=
  if iri == typeIri then "a" else name ds iri

/-- A datatype. The one of texts with a language is always written in full. -/
def datatype (ds : Declarations) (iri : String) : String :=
  if iri == rdfNamespace ++ "langString" then bracket iri else name ds iri

/-- An object. -/
def object (ds : Declarations) : Term → String
  | .node s => subject ds s
  | .literal ⟨text, .typed d⟩ =>
    if isBare d text.toList then text else quote text ++ "^^" ++ datatype ds d
  | .literal l => l.written (datatype ds)

/-- The end of what has been written when a graph ends: its last statement, and the graph itself if
it has a name. -/
def close (q : Quad) : String :=
  if q.graph.isSome then " .\n\x7d\n" else " .\n"

/-- What stands in front of a statement that starts a graph. -/
def opening (ds : Declarations) (graph : Option String) : String :=
  match graph with
  | some g => name ds g ++ " \x7b\n\t"
  | none => ""

/-- A statement after the one before it. -/
def statement (ds : Declarations) (before : Option Quad) (q : Quad) : String :=
  let object := object ds q.object
  let rest := predicate ds q.predicate ++ " " ++ object
  let whole := subject ds q.subject ++ " " ++ rest
  let indent := if q.graph.isSome then "\t" else ""
  match before with
  | none => opening ds q.graph ++ whole
  | some p =>
    if p.graph ≠ q.graph then close p ++ opening ds q.graph ++ whole
    else if p.subject ≠ q.subject then " .\n" ++ indent ++ whole
    else if p.predicate ≠ q.predicate then " ;\n\t" ++ indent ++ rest
    else " , " ++ object

/-- The statements after the one before them, and the end of the last. -/
def body (ds : Declarations) (before : Option Quad) : List Quad → String
  | [] => (before.map close).getD ""
  | q :: rest => statement ds before q ++ body ds (some q) rest

/-- The declarations, one a line. -/
def header (ds : Declarations) : String :=
  String.join (ds.map fun (label, iri) => "@prefix " ++ label ++ ": " ++ bracket iri ++ " .\n")

/-- Statements with their graphs. -/
def trig (table : NamespaceTable) (quads : List Quad) : String :=
  let ds := declarations table
  if quads.isEmpty then "" else header ds ++ body ds none quads

/-- Statements without their graphs. -/
def turtle (table : NamespaceTable) (triples : List Triple) : String :=
  trig table (triples.map fun t => ⟨t, none⟩)

end Triplify.Rdf.Turtle
