import Triplify.Error
import Triplify.Text.Blank
import Triplify.Text.Casing
/-!
# Output formats

The formats that a graph can be written in. Only two of them have named graphs.
-/

namespace Triplify

/-- A format of RDF documents. -/
inductive OutputFormat
  | rdfXml
  | turtle
  | n3
  | trig
  | nTriples
  | nQuads
deriving Repr, DecidableEq, Inhabited

namespace OutputFormat

/-- The extension of files. -/
def fileExtension : OutputFormat → String
  | rdfXml => "rdf"
  | turtle => "ttl"
  | n3 => "n3"
  | trig => "trig"
  | nTriples => "nt"
  | nQuads => "nq"

/-- The name of the format. -/
def text : OutputFormat → String
  | rdfXml => "RDF/XML"
  | turtle => "Turtle"
  | n3 => "N3"
  | trig => "TriG"
  | nTriples => "N-Triples"
  | nQuads => "N-Quads"

/-- The format can carry named graphs. -/
def hasNamedGraphs : OutputFormat → Bool
  | trig => true
  | nQuads => true
  | _ => false

/-- The format with one of the accepted names. -/
def ofName? : String → Option OutputFormat
  | "rdf" => some rdfXml
  | "rdfxml" => some rdfXml
  | "xml" => some rdfXml
  | "ttl" => some turtle
  | "turtle" => some turtle
  | "n3" => some n3
  | "notation3" => some n3
  | "trig" => some trig
  | "nt" => some nTriples
  | "ntriples" => some nTriples
  | "nq" => some nQuads
  | "nquads" => some nQuads
  | _ => none

/-- Reads a format, in any case and with white space around it. -/
def ofText (s : String) : Except MappingError OutputFormat :=
  let name := Text.lowercase (Text.trim s)
  match ofName? name with
  | some f => .ok f
  | none => .error (.config (.unknownFormat name))

/-- The format after a named graph has been asserted: one that can carry it. -/
def withNamedGraphs (f : OutputFormat) : OutputFormat :=
  if f.hasNamedGraphs then f else trig

end OutputFormat

end Triplify
