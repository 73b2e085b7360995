import Triplify.Rdf.Term
import Triplify.Xml.Name
/-!
# RDF/XML

One element for each run of statements about a subject. If the first of them gives its class, the
element has the name of the class. Namespaces that the root element does not declare are declared
where they are used.
-/

namespace Triplify.Rdf.RdfXml

/-- The namespace for directions of texts, which is always declared. -/
def itsNamespace : String := "http://www.w3.org/2005/11/its"

/-- The namespace of declarations themselves. -/
def declarationNamespace : String := "http://www.w3.org/2000/xmlns/"

/-- The label for a namespace that is declared where it is used. -/
def spareLabel : String := "oxprefix"

/-- The labels that a table cannot declare. -/
def reservedLabels : List String := ["rdf", "its", spareLabel]

/-- The names of RDF that are part of the notation, and cannot be properties or classes. -/
def reservedNames : List String :=
  ["RDF", "Description", "ID", "about", "parseType", "resource", "nodeID", "datatype", "li"].map
    (rdfNamespace ++ ·)

/-- The declarations of the root element: an IRI and its label, in the order of IRIs. -/
structure Declarations where
  labels : List (String × String)
  hasDefault : Bool

/-- Each namespace has one label, the last that the table gives it. -/
def declarations (table : NamespaceTable) : Declarations :=
  let own := table.bindings.filter fun (label, _) => !reservedLabels.contains label
  let all := (own.map fun (label, iri) => (iri, label)) ++ [(rdfNamespace, "rdf"), (itsNamespace, "its")]
  let last := all.zipIdx.filterMap fun (d, i) =>
    if (all.drop (i + 1)).any (·.1 == d.1) then none else some d
  ⟨last.mergeSort fun a b => a.1 < b.1 || a.1 == b.1, own.any (·.1.isEmpty)⟩

/-- A character in text or in an attribute value. -/
def escapeChar (c : Char) : List Char :=
  match c with
  | '<' => "&lt;".toList
  | '>' => "&gt;".toList
  | '&' => "&amp;".toList
  | '\'' => "&apos;".toList
  | '"' => "&quot;".toList
  | c => [c]

/-- A text in text or in an attribute value. -/
def escape (s : String) : String :=
  String.ofList (s.toList.flatMap escapeChar)

/-- An attribute with a space in front. -/
def attributeText (a : String × String) : String :=
  " " ++ a.1 ++ "=\"" ++ escape a.2 ++ "\""

/-- Splits an IRI after its last character that names cannot hold, and then before the first that a
name can start with. -/
def splitIri (iri : String) : String × String :=
  let chars := iri.toList
  let tail := (chars.reverse.takeWhile Xml.isNameChar).reverse
  if tail.length == chars.length then (iri, "")
  else
    let localName := tail.dropWhile (!Xml.isNameStart ·)
    (String.ofList (chars.take (chars.length - localName.length)), String.ofList localName)

/-- The name of an element for an IRI, and the declaration that the element needs. -/
def elementName (d : Declarations) (iri : String) : String × List (String × String) :=
  let (namespaceIri, localName) := splitIri iri
  match d.labels.lookup namespaceIri with
  | some label => (if label.isEmpty then localName else label ++ ":" ++ localName, [])
  | none =>
    if namespaceIri == declarationNamespace then ("xmlns:" ++ localName, [])
    else if !localName.isEmpty && !d.hasDefault then (localName, [("xmlns", namespaceIri)])
    else (spareLabel ++ ":" ++ localName, [("xmlns:" ++ spareLabel, namespaceIri)])

/-- The attribute that refers to a node, under the name for IRIs or for blank nodes. -/
def reference (iriName : String) : Subject → String × String
  | .iri s => (iriName, s)
  | .blank n => ("rdf:nodeID", s!"b{n}")

/-- The class that the element of a subject is named for, given by the first statement about it. -/
def class? (t : Triple) : Option String :=
  match t.object with
  | .node (.iri c) =>
    if t.predicate == typeIri && !reservedNames.contains c then some c else none
  | _ => none

/-- The name of the element of a subject, and the declaration it needs. -/
def subjectName (d : Declarations) (t : Triple) : String × List (String × String) :=
  match class? t with
  | some c => elementName d c
  | none => ("rdf:Description", [])

/-- The element of a property. A reserved name cannot be a property. -/
def property? (d : Declarations) (t : Triple) : Option String :=
  if reservedNames.contains t.predicate then none
  else
    let (name, declared) := elementName d t.predicate
    let start := "\n\t\t<" ++ name ++ String.join (declared.map attributeText)
    match t.object with
    | .node s => some (start ++ attributeText (reference "rdf:resource" s) ++ "/>")
    | .literal l =>
      let type := match l.type with
        | .plain => ""
        | .typed datatype => attributeText ("rdf:datatype", datatype)
        | .tagged tag => attributeText ("xml:lang", tag)
      some (start ++ type ++ ">" ++ escape l.text ++ "</" ++ name ++ ">")

/-- A subject whose element is open: the subject and the name of its element. -/
abbrev OpenElement := Subject × String

/-- The start of the document: its root element with the declarations. -/
def header (d : Declarations) : String :=
  let declared := d.labels.map fun (iri, label) =>
    (if label.isEmpty then "xmlns" else "xmlns:" ++ label, iri)
  "<?xml version=\"1.0\" encoding=\"UTF-8\"?>\n<rdf:RDF" ++
    String.join (declared.map attributeText) ++ ">"

/-- What comes before a new element: the start of the document, or the end of the open element. -/
def lead (d : Declarations) : Option OpenElement → String
  | some (_, name) => "\n\t</" ++ name ++ ">"
  | none => header d

/-- The text of a statement after an element that may be open, and the element that is open then. -/
def statement? (d : Declarations) (open_ : Option OpenElement) (t : Triple) :
    Option (String × OpenElement) :=
  match open_ with
  | some element =>
    if element.1 = t.subject then (property? d t).map fun p => (p, element)
    else fresh?
  | none => fresh?
where
  /-- The statement with an element of its own. -/
  fresh? : Option (String × OpenElement) :=
    let (name, declared) := subjectName d t
    let start := lead d open_ ++ "\n\t<" ++ name ++ String.join (declared.map attributeText) ++
      attributeText (reference "rdf:about" t.subject) ++ ">"
    let property := if (class? t).isSome then some "" else property? d t
    property.map fun p => (start ++ p, (t.subject, name))

/-- A text, and whether it is the whole document. -/
structure Written where
  text : String
  isWhole : Bool
deriving Repr, DecidableEq

/-- The statements after an element that may be open, up to the first that cannot be written. -/
def statements (d : Declarations) (open_ : Option OpenElement) : List Triple → Written
  | [] => ⟨lead d open_ ++ "\n</rdf:RDF>", true⟩
  | t :: rest =>
    match statement? d open_ t with
    | none => ⟨"", false⟩
    | some (text, element) =>
      let more := statements d (some element) rest
      ⟨text ++ more.text, more.isWhole⟩

/-- The document, which ends early if a property has a reserved name. -/
def document (table : NamespaceTable) (triples : List Triple) : Written :=
  statements (declarations table) none triples

end Triplify.Rdf.RdfXml
