import Triplify.Mapping.Interpreter
import Triplify.Xml.Namespaces
/-!
# Mapping documents

The whole conversion of one document in memory: reading it, binding the labels of paths, and running
the configuration over it.
-/

namespace Triplify.Mapping

/-- How documents are mapped. -/
structure Converter where
  config : Config
  transforms : TransformRegistry
  format : OutputFormat
  base : Option String

namespace Converter

/-- A converter whose base, if it has one, is an IRI. -/
def create (config : Config) (transforms : TransformRegistry) (format : OutputFormat)
    (base : Option String) : Except MappingError Converter := do
  if let some b := base then Graph.checkBase b
  return ⟨config, transforms, format, base⟩

/-- The graph and the diagnostics of a document, and how many fresh identifiers have been taken
since the first document. Relative references are resolved against the base. -/
def mapDocument (c : Converter) (taken : Nat) (text : String) (base : Option String) :
    Except MappingError (Graph × Diagnostics) × Nat :=
  match Xml.Document.ofText? text with
  | none => (.error (.xml .input), taken)
  | some d =>
    match Graph.empty c.config.namespaces c.format base with
    | .error e => (.error e, taken)
    | .ok g =>
      let bound := Xml.Document.bindMissing d.discoverNamespaces c.config.namespaces
      let (result, run) := runConfig ⟨c.config, c.transforms, ⟨d, bound⟩⟩ g taken
      (result.map fun _ => (run.graph, run.diagnostics), run.registries.taken)

end Converter

end Triplify.Mapping
