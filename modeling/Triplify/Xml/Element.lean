import Triplify.Xml.Markup
/-!
# Elements with their source

A tree of elements in which each element keeps the text it was read from. Comments, instructions and
text are checked and dropped. Names are compared by their local part.
-/

namespace Triplify.Xml

/-- An attribute. It is `plain` if its name has no label. -/
structure Attribute where
  name : String
  value : String
  plain : Bool
deriving Repr, DecidableEq

/-- An element: its local name, attributes and child elements, and its source text. -/
inductive Element
  | mk (name : String) (attributes : List Attribute) (children : List Element) (source : String)

namespace Element

/-- The local name. -/
def name : Element → String
  | mk n _ _ _ => n

/-- The attributes, namespace declarations apart. -/
def attributes : Element → List Attribute
  | mk _ a _ _ => a

/-- The child elements. -/
def children : Element → List Element
  | mk _ _ c _ => c

/-- The text that the element was read from. -/
def source : Element → String
  | mk _ _ _ s => s

/-- The dialect of element trees. A number that is no character refers to the replacement
character. -/
def dialect : Dialect where
  isChar := isChar
  charOf? := fun n =>
    let c := if n < 0xd800 || (0xdfff < n && n < 0x110000) then Char.ofNat n else '\uFFFD'
    if n < Nat.pow 2 32 && isChar c then some c else none

/-- Line ends and tabs become spaces; a carriage return before a line feed is dropped. -/
def normalize : List Char → List Char
  | '\r' :: '\n' :: rest => ' ' :: normalize rest
  | c :: rest => (if isSpace c then ' ' else c) :: normalize rest
  | [] => []

/-- The value of an attribute. Characters of references stay as they are. -/
def attributeText (value : List Piece) : String :=
  String.ofList (value.flatMap fun
    | .text s => normalize s
    | .reference c => [c])

/-- The namespace of the label `xml`. -/
def xmlNamespace : String := "http://www.w3.org/XML/1998/namespace"

/-- The namespace of the label `xmlns`. -/
def declarationNamespace : String := "http://www.w3.org/2000/xmlns/"

/-- Labels and the namespaces they stand for; without a label it is the default namespace. -/
abbrev Scope := List (Option String × String)

/-- What a declaration binds, if it is one. -/
def declares? (a : RawAttribute) : Option (Option String) :=
  if a.name.label == some "xmlns" then some (some a.name.localName)
  else if a.name.localName == "xmlns" then some none
  else none

/-- The declaration binds what it may bind: the two reserved namespaces are not free. -/
def mayBind (label : Option String) (iri : String) : Bool :=
  iri ≠ declarationNamespace &&
    (if label == some "xml" then iri == xmlNamespace else iri ≠ xmlNamespace)

/-- The bindings that a start tag makes, each label once. -/
def bindings? (attributes : List RawAttribute) : Option Scope :=
  attributes.foldlM (fun own a =>
    match declares? a with
    | none => some own
    | some label =>
      let iri := attributeText a.value
      if !mayBind label iri || (own.lookup label).isSome then none else some (own ++ [(label, iri)]))
    []

/-- The namespace of an attribute name. -/
def attributeNamespace? (scope : Scope) (name : TagName) : Option (Option String) :=
  match name.label with
  | none => some none
  | some "xml" => some (some xmlNamespace)
  | some label => (scope.lookup (some label)).map some

/-- The attributes of a start tag that are no declarations, no two of them with one meaning. -/
def attributes? (scope : Scope) (raw : List RawAttribute) : Option (List Attribute) := do
  let named ← (raw.filter fun a => (declares? a).isNone).mapM fun a =>
    (attributeNamespace? scope a.name).map fun iri => (iri, a)
  let meanings := named.map fun (iri, a) => (iri, a.name.localName)
  guard (meanings.zipIdx.all fun (m, i) => !(meanings.drop (i + 1)).contains m)
  return named.map fun (_, a) => ⟨a.name.localName, attributeText a.value, a.name.label.isNone⟩

/-- An element whose end has not been read: where it starts, and what it holds so far. -/
structure Open where
  name : TagName
  attributes : List Attribute
  scope : Scope
  start : List Char
  children : List Element := []

/-- The element that is complete where `rest` starts. -/
def Open.close (o : Open) (rest : List Char) : Element :=
  Element.mk o.name.localName o.attributes o.children.reverse
    (String.ofList (o.start.take (o.start.length - rest.length)))

/-- The open elements, innermost first, and the root once it is complete. -/
structure Builder where
  stack : List Open := []
  root : Option Element := none

namespace Builder

/-- Adds a complete element. -/
def complete (b : Builder) (e : Element) : Builder :=
  match b.stack with
  | [] => { b with root := some e }
  | o :: rest => { b with stack := { o with children := e :: o.children } :: rest }

/-- Opens an element that starts at a place in the text. -/
def open? (b : Builder) (name : TagName) (raw : List RawAttribute) (start : List Char) :
    Option Builder := do
  guard (b.root.isNone && name.label ≠ some "xmlns")
  let outer := match b.stack with
    | [] => [(some "xml", xmlNamespace)]
    | o :: _ => o.scope
  let scope := (← bindings? raw) ++ outer
  guard (name.label.isNone || (scope.lookup name.label).isSome)
  let attributes ← attributes? scope raw
  return { b with stack := ⟨name, attributes, scope, start, []⟩ :: b.stack }

/-- Closes the innermost element where `rest` starts. -/
def close? (b : Builder) (rest : List Char) : Option Builder :=
  match b.stack with
  | [] => none
  | o :: outer => some ({ b with stack := outer }.complete (o.close rest))

/-- Adds a piece of markup that starts and ends where the two texts start. -/
def add? (b : Builder) (m : Markup) (start rest : List Char) : Option Builder :=
  match m with
  | .start name raw isEmpty =>
    (b.open? name raw start).bind fun b => if isEmpty then b.close? rest else some b
  | .close name => if (b.stack.head?.map Open.name) = some name then b.close? rest else none
  | .text s => if !b.stack.isEmpty || s.all isSpace then some b else none
  | .reference _ => if b.stack.isEmpty then none else some b
  | .section _ => if b.stack.isEmpty then none else some b
  | .comment _ => some b
  | .instruction target content =>
    if target == "xml" && content.head? == some ' ' then none else some b

/-- Adds pieces in order. -/
def addAll? (b : Builder) : List (Markup × List Char) → Option Builder
  | [] => some b
  | (m, start) :: more =>
    (b.add? m start ((more.head?.map Prod.snd).getD [])).bind fun b => addAll? b more

end Builder

/-- The text after a declaration: a version and perhaps an encoding and whether it stands alone. -/
def declaration? (s : List Char) : Option (List Char) := do
  let rest ← ("<?xml".toList.isPrefixOf? s).bind (field? "version")
  guard (s[5]? == some ' ')
  let rest := (field? "encoding" rest).getD rest
  let rest := (field? "standalone" rest).getD rest
  "?>".toList.isPrefixOf? (skipSpace rest)
where
  /-- Reads white space, a word, an equals sign and a value in quotes. -/
  field? (word : String) (s : List Char) : Option (List Char) := do
    guard (s.head?.any isSpace)
    let rest ← word.toList.isPrefixOf? (skipSpace s)
    let (_, rest) ← assigned? dialect rest
    return rest

/-- Reads an element tree. A byte order mark at the start is skipped. -/
def ofText? (s : String) : Option Element :=
  let chars := match s.toList with
    | '\uFEFF' :: rest => rest
    | all => all
  let content := (declaration? chars).getD chars
  match Markup.all? dialect content.length content with
  | none => none
  | some pieces => match ({} : Builder).addAll? pieces with
    | some ⟨[], root⟩ => root
    | _ => none

end Element

end Triplify.Xml
