import Triplify.Graph
import Triplify.Rdf.RdfXml
import Triplify.Rdf.Turtle
/-!
# Serialization

Writing a graph in its format. The formats with declarations refuse namespaces that are no IRIs.
-/

namespace Triplify.Graph

/-- Every namespace that the format would declare is an IRI. -/
def checkDeclarations (labels : List (String × String)) : Except MappingError Unit :=
  match labels.find? fun (_, iri) => !Iri.isAbsolute iri.toList with
  | some (label, _) => .error (.undeclarable label)
  | none => .ok ()

/-- The text that writing a graph gives, and the error that ended it early, if one did. -/
structure Written where
  text : String
  error : Option MappingError := none
deriving Repr, DecidableEq

/-- A text that is written unless a declaration is refused. -/
def declaring (labels : List (String × String)) (written : Written) : Written :=
  match checkDeclarations labels with
  | .ok () => written
  | .error e => ⟨"", some e⟩

end Graph

/-- A way to write statements: without their graphs, or with them. -/
inductive Writer
  | triples (write : NamespaceTable → List Rdf.Triple → Graph.Written)
  | quads (write : NamespaceTable → List Rdf.Quad → Graph.Written)

namespace Writer

/-- RDF/XML, which ends early at a property with a reserved name. -/
def rdfXml : Writer := .triples fun table triples =>
  let declared := table.bindings.filter fun (label, _) =>
    !Rdf.RdfXml.reservedLabels.contains label
  let w := Rdf.RdfXml.document table triples
  Graph.declaring declared ⟨w.text, if w.isWhole then none else some .io⟩

/-- Turtle, which is also written for N3. -/
def turtle : Writer := .triples fun table triples =>
  Graph.declaring table.bindings ⟨Rdf.Turtle.turtle table triples, none⟩

/-- TriG. -/
def trig : Writer := .quads fun table quads =>
  Graph.declaring table.bindings ⟨Rdf.Turtle.trig table quads, none⟩

/-- N-Triples. -/
def nTriples : Writer := .triples fun _ triples => ⟨Rdf.nTriples triples, none⟩

/-- N-Quads. -/
def nQuads : Writer := .quads fun _ quads => ⟨Rdf.nQuads quads, none⟩

/-- What a writer makes of a graph. -/
def run (w : Writer) (g : Graph) : Graph.Written :=
  match w with
  | .triples write => write g.namespaces (Rdf.numberedTriples g.triples)
  | .quads write => write g.namespaces g.dataset

end Writer

/-- The writer for a format. -/
def OutputFormat.writer : OutputFormat → Writer
  | rdfXml => .rdfXml
  | turtle => .turtle
  | n3 => .turtle
  | trig => .trig
  | nTriples => .nTriples
  | nQuads => .nQuads

namespace Graph

/-- Writes the graph in its format. -/
def written (g : Graph) : Written := g.format.writer.run g

/-- The text of the graph in its format. -/
def serialize (g : Graph) : Except MappingError String :=
  match g.written.error with
  | none => .ok g.written.text
  | some e => .error e

end Graph

end Triplify
