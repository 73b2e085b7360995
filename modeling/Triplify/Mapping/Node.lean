import Triplify.Error
/-!
# Mapping nodes

The elements of a mapping configuration, as a tree. Each node has a tag that says what it does, and
keeps the text it was read from for messages.
-/

namespace Triplify.Mapping

/-- What an element of a mapping does. -/
inductive Tag
  | resource
  | mapping
  | triple
  | type
  | bnode
  | identifier
  | condition
  | otherwise
  | switch
  | branch
  | fallback
  | counter
  | uniqueIdentifier
  | error
  | useNamedMapping
  | partition
  | namespaces
  | split
  | namedMapping
deriving Repr, DecidableEq

namespace Tag

/-- The name of a tag. -/
def text : Tag → String
  | resource => "resource"
  | mapping => "mapping"
  | triple => "triple"
  | type => "type"
  | bnode => "bnode"
  | identifier => "identifier"
  | condition => "if"
  | otherwise => "else"
  | switch => "switch"
  | branch => "case"
  | fallback => "default"
  | counter => "counter"
  | uniqueIdentifier => "uniqueidentifier"
  | error => "error"
  | useNamedMapping => "usenamedmapping"
  | partition => "partition"
  | namespaces => "namespaces"
  | split => "split"
  | namedMapping => "namedmapping"

/-- All tags. -/
def all : List Tag :=
  [resource, mapping, triple, type, bnode, identifier, condition, otherwise, switch, branch,
    fallback, counter, uniqueIdentifier, error, useNamedMapping, partition, namespaces, split,
    namedMapping]

/-- Reads a tag name in any case. `foreach` is another name of `mapping`. -/
def ofName? (name : String) : Option Tag :=
  let lower := String.ofList (name.toList.map Char.toLower)
  if lower == "foreach" then some mapping else all.find? (·.text == lower)

/-- The elements inside of such an element are no mapping nodes. -/
def isOpaque : Tag → Bool
  | namespaces => true
  | split => true
  | partition => true
  | _ => false

end Tag

/-- A node: its tag, the name it is written with, its attributes in order, its children and its
source text. -/
inductive Node
  | mk (tag : Tag) (name : String) (attributes : List (String × String)) (children : List Node)
      (source : String)

namespace Node

/-- What the node does. -/
def tag : Node → Tag
  | mk t _ _ _ _ => t

/-- The name as it is written. -/
def name : Node → String
  | mk _ n _ _ _ => n

/-- The attributes in order. -/
def attributes : Node → List (String × String)
  | mk _ _ a _ _ => a

/-- The child nodes. -/
def children : Node → List Node
  | mk _ _ _ c _ => c

/-- The text that the node was read from. -/
def source : Node → String
  | mk _ _ _ _ s => s

/-- The value of the first attribute of a name. -/
def get? (n : Node) (key : String) : Option String :=
  n.attributes.lookup key

/-- The node has an attribute of the name. -/
def has (n : Node) (key : String) : Bool := (n.get? key).isSome

/-- The value of an attribute that has to be there. -/
def require (n : Node) (key : String) : Except MappingError String :=
  match n.get? key with
  | some v => .ok v
  | none => .error (.missingAttribute key n.source)

/-- The child nodes with a tag. -/
def childrenWith (n : Node) (t : Tag) : List Node :=
  n.children.filter (·.tag = t)

end Node

end Triplify.Mapping
