import Triplify.Xml.Markup
/-!
# Documents

A document is an array of nodes in document order: each element is followed by its attributes, then
by its content. `Document.ofText?` reads one. Namespaces are resolved; nothing is normalized. Every
reference and every character data section makes a text node of its own.
-/

namespace Triplify.Xml

/-- A name with its namespace and the label it is written with. -/
structure Name where
  namespaceIri : Option String
  localName : String
  label : Option String
deriving Repr, DecidableEq

/-- The kinds of nodes that have a place in a document. -/
inductive NodeKind
  | root
  | element (name : Name)
  | attribute (name : Name)
  | text
  | comment
  | instruction (target : String)
deriving Repr, DecidableEq

/-- A node. Its value is empty for the root and for elements. Children and attributes are given by
their places; `last` is the place of the last node inside. The scope holds the labels in force. -/
structure Node where
  kind : NodeKind
  value : String
  parent : Option Nat
  children : List Nat := []
  attributes : List Nat := []
  last : Nat
  scope : List (String × String) := []
deriving Repr

/-- Nodes in document order. The root is first. -/
structure Document where
  nodes : Array Node

namespace Document

/-- The namespace of the label `xml`, which is always bound. -/
def xmlNamespace : String := "http://www.w3.org/XML/1998/namespace"

/-- The dialect of documents: every character may stand in a text and be referred to. -/
def dialect : Dialect where
  isChar := fun _ => true
  charOf? := fun n => if n < 0xd800 || (0xdfff < n && n < 0x110000) then some (Char.ofNat n) else none

/-- The characters of an attribute value. -/
def attributeText (value : List Piece) : String :=
  String.ofList (value.flatMap fun
    | .text s => s
    | .reference c => [c])

/-- The labels bound by a start tag. A label cannot be bound to nothing. -/
def declared? (attributes : List RawAttribute) : Option (List (String × String)) :=
  (attributes.filter fun a => a.name.label == some "xmlns").mapM fun a =>
    let iri := attributeText a.value
    if iri.isEmpty then none else some (a.name.localName, iri)

/-- The default namespace that a start tag declares; an empty text stands for none. -/
def defaultDeclared? (attributes : List RawAttribute) : Option String :=
  (attributes.find? fun a => a.name == ⟨none, "xmlns"⟩).map fun a => attributeText a.value

/-- Labels in force, inner bindings in place of outer ones. -/
def extendScope (outer inner : List (String × String)) : List (String × String) :=
  inner ++ outer.filter fun (label, _) => (inner.lookup label).isNone

/-- An open element: its written name, the labels in force and the default namespace. -/
structure Open where
  name : TagName
  place : Nat
  scope : List (String × String)
  defaultNamespace : String
  children : List Nat := []

/-- The nodes so far, the open elements, innermost first, and the content of the root. -/
structure Builder where
  nodes : Array Node := #[⟨.root, "", none, [], [], 0, []⟩]
  stack : List Open := []
  top : List Nat := []
  hasRoot : Bool := false

namespace Builder

/-- The place of the node that a new node goes into. -/
def parent (b : Builder) : Nat :=
  match b.stack with
  | [] => 0
  | o :: _ => o.place

/-- Notes a child of the innermost open element. -/
def addChild (b : Builder) (place : Nat) : Builder :=
  match b.stack with
  | [] => { b with top := b.top ++ [place] }
  | o :: rest => { b with stack := { o with children := place :: o.children } :: rest }

/-- Adds a node without content of its own. -/
def leaf (b : Builder) (kind : NodeKind) (value : String) : Builder :=
  let place := b.nodes.size
  let node : Node := ⟨kind, value, some b.parent, [], [], place, []⟩
  { b.addChild place with nodes := b.nodes.push node }

/-- The namespace of a label. -/
def resolve? (scope : List (String × String)) (name : TagName) : Option Name :=
  match name.label with
  | none => some ⟨none, name.localName, none⟩
  | some label => (scope.lookup label).map fun iri => ⟨some iri, name.localName, some label⟩

/-- The order of attributes: those without a label first, then by label and local name. -/
def attributeKey (a : Name) : String × String := (a.label.getD "", a.localName)

/-- One attribute comes before another, or they have the same place. -/
def attributeLe (a b : Name × String) : Bool :=
  let (p, m) := attributeKey a.1
  let (q, n) := attributeKey b.1
  p < q || (p == q && (m < n || m == n))

/-- The attributes of an element. Of two with the same meaning the later one counts. -/
def meanings (attributes : List (Name × String)) : List (Name × String) :=
  attributes.zipIdx.filterMap fun (a, i) =>
    if (attributes.drop (i + 1)).any fun b =>
        b.1.localName == a.1.localName && b.1.namespaceIri == a.1.namespaceIri then none
    else some a

/-- No attribute is written twice. -/
def areDistinct (attributes : List RawAttribute) : Bool :=
  attributes.zipIdx.all fun (a, i) => !(attributes.drop (i + 1)).any fun b => b.name == a.name

/-- Adds an element with its attributes and opens it. -/
def start? (b : Builder) (name : TagName) (attributes : List RawAttribute) : Option Builder := do
  guard (areDistinct attributes)
  let outer := b.stack.head?
  let scope := extendScope ((outer.map Open.scope).getD [("xml", xmlNamespace)])
    (← declared? attributes)
  let inherited := (outer.map Open.defaultNamespace).getD ""
  let byDefault := (defaultDeclared? attributes).getD inherited
  let ownName ← resolve? scope name
  let ownName := if name.label.isNone && !byDefault.isEmpty then
      { ownName with namespaceIri := some byDefault }
    else ownName
  let plain := attributes.filter fun a =>
    a.name.label ≠ some "xmlns" && a.name ≠ ⟨none, "xmlns"⟩
  let resolved ← plain.mapM fun a =>
    (resolve? scope a.name).map fun n => (n, attributeText a.value)
  let sorted := (meanings resolved).mergeSort attributeLe
  let place := b.nodes.size
  let count := sorted.length
  -- In document order attributes descend, on the attribute axis they ascend.
  let places := (List.range count).map fun i => place + count - i
  let element : Node :=
    ⟨.element ownName, "", some b.parent, [], places, place + count, scope⟩
  let own := sorted.reverse.zipIdx.map fun ((n, value), i) =>
    (⟨.attribute n, value, some place, [], [], place + 1 + i, []⟩ : Node)
  return { b.addChild place with
    nodes := (b.nodes.push element) ++ own.toArray
    stack := ⟨name, place, scope, byDefault, []⟩ :: (b.addChild place).stack
    hasRoot := true }

/-- Closes the innermost open element. -/
def close? (b : Builder) : Option Builder :=
  match b.stack with
  | [] => none
  | o :: rest => some { b with
      nodes := b.nodes.modify o.place fun n =>
        { n with children := o.children.reverse, last := b.nodes.size - 1 }
      stack := rest }

/-- The data of an instruction: the text after white space, which has to come if there is any. -/
def instructionData? (content : List Char) : Option String :=
  match content with
  | [] => some ""
  | c :: rest => if isSpace c then some (String.ofList (skipSpace rest)) else none

/-- Adds a piece of markup. Text stands only inside of the one root element; white space around
that element does not count. -/
def add? (b : Builder) : Markup → Option Builder
  | .start name attributes isEmpty =>
    if b.stack.isEmpty && b.hasRoot then none
    else if isEmpty then (b.start? name attributes).bind close?
    else b.start? name attributes
  | .close name =>
    if (b.stack.head?.map Open.name) = some name then b.close? else none
  | .text s =>
    if !b.stack.isEmpty then some (b.leaf .text (String.ofList s))
    else if s.all isSpace then some b
    else none
  | .reference c => if b.stack.isEmpty then none else some (b.leaf .text (String.singleton c))
  | .section s => if b.stack.isEmpty then none else some (b.leaf .text (String.ofList s))
  | .comment s => some (b.leaf .comment (String.ofList s))
  | .instruction target content =>
    if target.toList.map Char.toLower = "xml".toList then none
    else (instructionData? content).map (b.leaf (.instruction target))

/-- The document, if its root element has been read and closed. -/
def finish? (b : Builder) : Option Document :=
  if b.hasRoot && b.stack.isEmpty then
    some ⟨b.nodes.modify 0 fun n => { n with children := b.top, last := b.nodes.size - 1 }⟩
  else none

end Builder

/-- A declaration at the start of a text: a version and perhaps an encoding and a mark whether the
text stands alone. -/
def declaration? (s : List Char) : Option (List Char) := do
  let rest ← "<?xml".toList.isPrefixOf? s
  let (version, rest) ← field? "version" rest
  match version with
  | '1' :: '.' :: digits => guard (!digits.isEmpty && digits.all Char.isDigit)
  | _ => none
  let rest ← match field? "encoding" rest with
    | some (c :: name, rest) =>
      if c.isAlpha && name.all fun d => d.isAlphanum || d == '.' || d == '_' || d == '-' then
        some rest
      else none
    | some ([], _) => none
    | none => some rest
  let rest ← match field? "standalone" rest with
    | some (value, rest) =>
      if value == "yes".toList || value == "no".toList then some rest else none
    | none => some rest
  "?>".toList.isPrefixOf? (skipSpace rest)
where
  /-- Reads white space, a word, an equals sign and a value in quotes. -/
  field? (word : String) (s : List Char) : Option (List Char × List Char) := do
    guard (s.head?.any isSpace)
    let rest ← word.toList.isPrefixOf? (skipSpace s)
    let rest ← "=".toList.isPrefixOf? (skipSpace rest)
    match skipSpace rest with
    | q :: rest =>
      guard (q == '"' || q == '\'')
      let (value, _, rest) ← Text.cutAt? (· == q) rest
      return (value, rest)
    | [] => none

/-- Reads a document. -/
def ofText? (s : String) : Option Document :=
  let chars := s.toList
  let content := (declaration? chars).getD chars
  match Markup.all? dialect content.length content with
  | none => none
  | some pieces =>
    let built? : Option Builder := pieces.foldlM (fun b piece => b.add? piece.1) {}
    built?.bind Builder.finish?

end Document

end Triplify.Xml
