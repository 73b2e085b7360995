import Triplify.Name
import Triplify.Xml.Document
/-!
# Namespaces of a document

The labels that path expressions can use on a document: one for the namespace of the root element,
those that the document binds, and those of a table that the document leaves free. Elements are
visited depth first, with a stack of those that are still to come.
-/

namespace Triplify.Xml.Document

/-! ## Elements -/

section
variable (d : Document)

/-- The name of the element at a place. -/
def elementName? (place : Nat) : Option Name :=
  match d.nodes[place]?.map Node.kind with
  | some (.element name) => some name
  | _ => none

/-- There is an element at the place. -/
def isElement (place : Nat) : Bool := (d.elementName? place).isSome

/-- The elements right inside of a node, in order. -/
def elementsIn (place : Nat) : List Nat :=
  ((d.nodes[place]?.map Node.children).getD []).filter d.isElement

/-- The labels in force at an element. -/
def scopeAt (place : Nat) : List (String × String) :=
  (d.nodes[place]?.map Node.scope).getD []

end

/-- Visits the last one of the pending places, and goes on with those inside of it, the first of them
first. There is no answer if that takes more than so many visits. -/
def depthFirst {α : Type} (inside : Nat → List Nat) (visit : α → Nat → α) (fuel : Nat)
    (pending : Array Nat) (a : α) : Option α :=
  match pending.back? with
  | none => some a
  | some place =>
    match fuel with
    | 0 => none
    | fuel + 1 =>
      depthFirst inside visit fuel (pending.pop ++ (inside place).reverse) (visit a place)

/-! ## Labels -/

/-- The label of the namespace of the root element. -/
def rootLabel : String := "vp"

/-- Adds the bindings whose labels are still free, in the order of the labels. -/
def bindFree (bound scope : List (String × String)) : List (String × String) :=
  bound ++ (scope.filter fun (label, _) => label ≠ "xml" && (bound.lookup label).isNone).mergeSort
    fun a b => a.1 < b.1 || a.1 == b.1

/-- The labels that a document binds. Of several bindings of a label the first counts. -/
def discoverNamespaces (d : Document) : List (String × String) :=
  let pending := d.elementsIn 0
  let own? := (pending.head?.bind d.elementName?).bind Name.namespaceIri
  let own := own?.toList.map fun iri => (rootLabel, iri)
  let visit := fun bound place => bindFree bound (d.scopeAt place)
  (depthFirst d.elementsIn visit d.nodes.size pending.reverse.toArray own).getD own

/-- Adds the bindings of a table whose labels are free. -/
def bindMissing (bound : List (String × String)) (table : NamespaceTable) :
    List (String × String) :=
  table.bindings.foldl (fun bound (label, iri) =>
    if (bound.lookup label).isSome then bound else bound ++ [(label, iri)]) bound

end Triplify.Xml.Document
