import Triplify.XPath.Expr
import Triplify.Xml.Document
/-!
# Nodes and axes

The nodes that path expressions select, their names and string values, and the nodes on each axis.
An axis lists its nodes from near to far, so that axes that go backward are in reverse document
order.
-/

namespace Triplify.XPath

/-- A node: one with a place in the document, or a namespace in force at an element. -/
inductive NodeRef
  | place (i : Nat)
  | binding (owner : Nat) (label iri : String)
deriving Repr, DecidableEq

namespace NodeRef

/-- The root of every document. -/
def root : NodeRef := place 0

/-- The key of document order. The namespaces of an element follow it, before its attributes. -/
def le (a b : NodeRef) : Bool :=
  match a, b with
  | place i, place j => i ≤ j
  | place i, binding owner _ _ => i ≤ owner
  | binding owner _ _, place i => owner < i
  | binding o l _, binding p m _ => o < p || (o == p && (l < m || l == m))

/-- Drops repetitions that stand next to each other. -/
def dropRepeats : List NodeRef → List NodeRef
  | a :: b :: rest => if a = b then dropRepeats (b :: rest) else a :: dropRepeats (b :: rest)
  | nodes => nodes

/-- The nodes in document order, each once. -/
def inOrder (nodes : List NodeRef) : List NodeRef :=
  dropRepeats (nodes.mergeSort le)

end NodeRef

end Triplify.XPath

namespace Triplify.Xml.Document

open Triplify.XPath (NodeRef Axis NodeTest)

variable (d : Document)

/-- The node at a place. -/
def at? (i : Nat) : Option Node := d.nodes[i]?

/-- There is an attribute at the place. -/
def isAttribute (i : Nat) : Bool :=
  match (d.at? i).map Node.kind with
  | some (.attribute _) => true
  | _ => false

/-- The values of the text nodes among so many places from the first one on. -/
def textFrom (first : Nat) : Nat → List Char
  | 0 => []
  | count + 1 =>
    match d.at? first with
    | some ⟨.text, value, _, _, _, _, _⟩ => value.toList ++ textFrom (first + 1) count
    | _ => textFrom (first + 1) count

/-- The value of a node as text. For the root and elements it is all the text inside. -/
def stringValue : NodeRef → String
  | .binding _ _ iri => iri
  | .place i =>
    match d.at? i with
    | none => ""
    | some n =>
      match n.kind with
      | .root => String.ofList (d.textFrom (i + 1) (n.last - i))
      | .element _ => String.ofList (d.textFrom (i + 1) (n.last - i))
      | _ => n.value

/-- The name of an element or attribute. -/
def name? (i : Nat) : Option Name :=
  match (d.at? i).map Node.kind with
  | some (.element n) => some n
  | some (.attribute n) => some n
  | _ => none

/-- The local part of the name of a node, for the kinds that have one. -/
def localName? : NodeRef → Option String
  | .binding _ label _ => some label
  | .place i =>
    match (d.at? i).map Node.kind with
    | some (.instruction target) => some target
    | _ => (d.name? i).map Name.localName

/-- The namespace of the name of a node. -/
def namespaceOf? : NodeRef → Option String
  | .binding .. => none
  | .place i => (d.name? i).bind Name.namespaceIri

/-- The name of a node with a label. An element in a default namespace takes a label that is bound
to it, if there is one. -/
def labelledName? : NodeRef → Option String
  | .binding _ label _ => some label
  | .place i =>
    match d.name? i with
    | none => d.localName? (.place i)
    | some n =>
      let bound? := n.namespaceIri.bind fun iri =>
        (((d.at? i).map Node.scope).getD []).find? fun (_, bound) => bound == iri
      match n.label.orElse fun _ => bound?.map Prod.fst with
      | some label => some (label ++ ":" ++ n.localName)
      | none => some n.localName

/-- The parent of a node. -/
def parent? : NodeRef → Option Nat
  | .binding owner _ _ => some owner
  | .place i => (d.at? i).bind Node.parent

/-- The ancestors of a place, the nearest first. -/
def ancestorsOf (fuel i : Nat) : List Nat :=
  match fuel with
  | 0 => []
  | fuel + 1 => match (d.at? i).bind Node.parent with
    | some p => p :: ancestorsOf fuel p
    | none => []

/-- The nodes above a node, the nearest first. Each has an earlier place than the one below. -/
def ancestors (n : NodeRef) : List Nat :=
  match d.parent? n with
  | none => []
  | some p => p :: d.ancestorsOf (p + 1) p

/-- So many places from the first one on, attributes apart. -/
def content (first count : Nat) : List Nat :=
  ((List.range count).map (first + ·)).filter fun i => !d.isAttribute i

/-- The nodes inside of a node. -/
def descendants : NodeRef → List Nat
  | .binding .. => []
  | .place i => match d.at? i with
    | some n => d.content (i + 1) (n.last - i)
    | none => []

/-- The children of the parent of a node, if the node is one of them. -/
def siblings (i : Nat) : List Nat :=
  match ((d.at? i).bind Node.parent).bind d.at? with
  | some p => if p.children.contains i then p.children else []
  | none => []

/-- The place from which following and preceding nodes are counted. -/
def anchor : NodeRef → Nat
  | .binding owner _ _ => owner
  | .place i => if d.isAttribute i then ((d.at? i).bind Node.parent).getD i else i

/-- The nodes on an axis, from near to far. -/
def along (a : Axis) (n : NodeRef) : List NodeRef :=
  let places := fun (is : List Nat) => is.map NodeRef.place
  match a with
  | .self => [n]
  | .child => match n with
    | .place i => places (((d.at? i).map Node.children).getD [])
    | .binding .. => []
  | .descendant => places (d.descendants n)
  | .descendantOrSelf => n :: places (d.descendants n)
  | .parent => places (d.parent? n).toList
  | .ancestor => places (d.ancestors n)
  | .ancestorOrSelf => n :: places (d.ancestors n)
  | .attributes => match n with
    | .place i => places (((d.at? i).map Node.attributes).getD [])
    | .binding .. => []
  | .namespaces => match n with
    | .place i => match d.at? i with
      | some ⟨.element _, _, _, _, _, _, scope⟩ =>
        (scope.mergeSort fun a b => a.1 < b.1 || a.1 == b.1).map fun (label, iri) =>
          .binding i label iri
      | _ => []
    | .binding .. => []
  | .followingSibling => match n with
    | .place i => places ((d.siblings i).filter (i < ·))
    | .binding .. => []
  | .precedingSibling => match n with
    | .place i => places ((d.siblings i).filter (· < i)).reverse
    | .binding .. => []
  | .following =>
    let last := ((d.at? (d.anchor n)).map Node.last).getD 0
    places (d.content (last + 1) (d.nodes.size - (last + 1)))
  | .preceding =>
    let base := d.anchor n
    let above := d.ancestorsOf (base + 1) base
    places ((d.content 0 base).filter (!above.contains ·)).reverse

/-- The kind of nodes that a test by name selects on an axis. -/
def isPrincipal (a : Axis) (n : NodeRef) : Bool :=
  match a, n with
  | .namespaces, .binding .. => true
  | .namespaces, _ => false
  | _, .binding .. => false
  | .attributes, .place i => d.isAttribute i
  | _, .place i => match (d.at? i).map Node.kind with
    | some (.element _) => true
    | _ => false

/-- The node passes a test on an axis. A name without a label is a name in no namespace. -/
def passes (namespaces : List (String × String)) (a : Axis) (t : NodeTest) (n : NodeRef) : Bool :=
  let kind? : Option NodeKind := match n with
    | .place i => (d.at? i).map Node.kind
    | .binding .. => none
  match t with
  | .any => true
  | .text => kind? == some .text
  | .comment => kind? == some .comment
  | .instruction target => match kind? with
    | some (.instruction own) => target.all (· == own)
    | _ => false
  | .everyName => d.isPrincipal a n
  | .namesIn label =>
    d.isPrincipal a n && (namespaces.lookup label).any fun iri => d.namespaceOf? n == some iri
  | .name ⟨none, name⟩ =>
    d.isPrincipal a n && d.namespaceOf? n == none && d.localName? n == some name
  | .name ⟨some label, name⟩ =>
    d.isPrincipal a n && (namespaces.lookup label).any fun iri =>
      d.namespaceOf? n == some iri && d.localName? n == some name

end Triplify.Xml.Document
