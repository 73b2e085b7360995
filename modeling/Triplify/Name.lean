import Triplify.Error
import Triplify.Text.Blank
import Triplify.Text.Search
/-!
# Qualified names and namespace tables

A namespace table binds labels to namespace IRIs, in the order of declaration. It shortens an IRI to
a label and a local name with the first namespace that the IRI starts with, and expands names back.
-/

namespace Triplify

/-- A name `label:localName`. -/
structure QualifiedName where
  label : String
  localName : String
deriving Repr, DecidableEq, Inhabited

/-- An IRI relative to a namespace of a table. Without a label the local name is the whole IRI. -/
structure ShortIri where
  label : String
  localName : String
deriving Repr, DecidableEq, Inhabited

namespace QualifiedName

/-- Reads a name: two parts, neither of them empty, around one colon. White space around the name
is ignored. -/
def parse (text : String) : Except MappingError QualifiedName :=
  match Text.splitAll ':' (Text.trimChars text.toList) with
  | [label, localName] =>
    if label.isEmpty || localName.isEmpty then .error (.invalidQualifiedName text)
    else .ok ⟨String.ofList label, String.ofList localName⟩
  | _ => .error (.invalidQualifiedName text)

/-- The written form of a name. -/
def text (n : QualifiedName) : String :=
  s!"{n.label}:{n.localName}"

end QualifiedName

/-- The written form of a short IRI. -/
def ShortIri.text (s : ShortIri) : String :=
  if s.label.isEmpty then s.localName else s!"{s.label}:{s.localName}"

/-- The namespace of OWL. -/
def owlNamespace : String := "http://www.w3.org/2002/07/owl#"

/-- The namespace of RDF. -/
def rdfNamespace : String := "http://www.w3.org/1999/02/22-rdf-syntax-ns#"

/-- The namespace of RDF Schema. -/
def rdfsNamespace : String := "http://www.w3.org/2000/01/rdf-schema#"

/-- Labels bound to namespace IRIs, in the order of declaration. -/
structure NamespaceTable where
  bindings : List (String × String)
deriving Repr, DecidableEq, Inhabited

namespace NamespaceTable

/-- The IRI bound to a label. -/
def get? (t : NamespaceTable) (label : String) : Option String :=
  (t.bindings.find? (·.1 == label)).map (·.2)

/-- Binds a label that is not bound yet; a bound label keeps its IRI. -/
def register (t : NamespaceTable) (label iri : String) : NamespaceTable :=
  if (t.get? label).isSome then t else ⟨t.bindings ++ [(label, iri)]⟩

/-- The table that every configuration starts from. -/
def standard : NamespaceTable :=
  ⟨[("owl", owlNamespace), ("rdf", rdfNamespace), ("rdfs", rdfsNamespace)]⟩

/-- The number of bindings. -/
def size (t : NamespaceTable) : Nat := t.bindings.length

/-- The rest of the value after the namespace, if the value starts with it. -/
def rest? (namespaceIri value : String) : Option String :=
  (namespaceIri.toList.isPrefixOf? value.toList).map String.ofList

/-- Shortens a value with the first namespace it starts with. -/
def shorten (t : NamespaceTable) (value : String) : ShortIri :=
  (t.bindings.findSome? fun (label, iri) => (rest? iri value).map (ShortIri.mk label)).getD
    ⟨"", value⟩

/-- The IRI that a qualified name stands for. -/
def expandName (t : NamespaceTable) (n : QualifiedName) : Except MappingError String :=
  match t.get? n.label with
  | some iri => .ok (iri ++ n.localName)
  | none => .error (.unboundLabel n.label)

/-- The full text of a short IRI. Without a label it is the local name. -/
def expand (t : NamespaceTable) (s : ShortIri) : Except MappingError String :=
  if s.label.isEmpty then .ok s.localName else t.expandName ⟨s.label, s.localName⟩

end NamespaceTable

end Triplify
