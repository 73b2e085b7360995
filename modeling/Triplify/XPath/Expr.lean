import Triplify.Xml.Name
/-!
# Path expressions

The abstract syntax of XPath 1.0. The short forms are spelled out: `//` stands for a step to all
nodes below, `.` and `..` for steps to the node itself and its parent, `@` for the attribute axis.
-/

namespace Triplify.XPath

/-- The directions in which a step can go. -/
inductive Axis
  | ancestor
  | ancestorOrSelf
  | attributes
  | child
  | descendant
  | descendantOrSelf
  | following
  | followingSibling
  | namespaces
  | parent
  | preceding
  | precedingSibling
  | self
deriving Repr, DecidableEq

/-- The axes by name. -/
def Axis.named : List (String × Axis) :=
  [("ancestor-or-self", ancestorOrSelf), ("ancestor", ancestor), ("attribute", attributes),
   ("child", child), ("descendant-or-self", descendantOrSelf), ("descendant", descendant),
   ("following-sibling", followingSibling), ("following", following), ("namespace", namespaces),
   ("parent", parent), ("preceding-sibling", precedingSibling), ("preceding", preceding),
   ("self", self)]

/-- What a step selects on its axis. -/
inductive NodeTest
  | any
  | text
  | comment
  | instruction (target : Option String)
  | everyName
  | namesIn (label : String)
  | name (name : Xml.TagName)
deriving Repr, DecidableEq

/-- The operators that compare two values or compute with them. -/
inductive Operator
  | or
  | and
  | equal
  | notEqual
  | less
  | lessEqual
  | greater
  | greaterEqual
  | plus
  | minus
  | times
  | div
  | mod
  | union
deriving Repr, DecidableEq

mutual

/-- An expression. -/
inductive Expr
  | binary (op : Operator) (left right : Expr)
  | negate (e : Expr)
  | literal (s : String)
  | number (x : Float)
  | reference (name : Xml.TagName)
  | call (name : Xml.TagName) (arguments : List Expr)
  | context
  | root
  | path (start : Expr) (steps : List Step)
  | filter (e predicate : Expr)

/-- A step of a path, with its predicates in order. -/
inductive Step
  | mk (axis : Axis) (test : NodeTest) (predicates : List Expr)

end

end Triplify.XPath
