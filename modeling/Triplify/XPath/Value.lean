import Triplify.Decimal.Text
import Triplify.Text.Blank
import Triplify.XPath.Axes
/-!
# Values

What expressions evaluate to, and how a value of one type is taken for one of another.
-/

namespace Triplify.XPath

/-- The value of an expression. Nodes are in document order, each once. -/
inductive Value
  | nodes (ns : List NodeRef)
  | text (s : String)
  | number (x : Float)
  | boolean (b : Bool)

/-- Why an expression has no value. -/
inductive Fault
  | unknownFunction (name : String)
  | unknownVariable (name : String)
  | wrongArgumentCount (function : String)
  | noNodes
deriving Repr, DecidableEq

/-- The number that a text writes, or `NaN`. -/
def numberOfText (s : String) : Float :=
  (Decimal.number? (Text.trim s)).getD (0.0 / 0.0)

namespace Value

variable (d : Xml.Document)

/-- The value as text. Of several nodes it is the value of the first. -/
def toText : Value → String
  | nodes ns => match ns with
    | [] => ""
    | n :: _ => d.stringValue n
  | text s => s
  | number x => Decimal.plain x
  | boolean b => if b then "true" else "false"

/-- The value as a number. -/
def toNumber : Value → Float
  | nodes ns => numberOfText ((nodes ns).toText d)
  | text s => numberOfText s
  | number x => x
  | boolean b => if b then 1.0 else 0.0

/-- The value as a truth value. -/
def toBoolean : Value → Bool
  | nodes ns => !ns.isEmpty
  | text s => !s.isEmpty
  | number x => x != 0.0 && !x.isNaN
  | boolean b => b

/-- The value as nodes, which no other value is. -/
def toNodes : Value → Except Fault (List NodeRef)
  | nodes ns => .ok ns
  | _ => .error .noNodes

/-- The values are equal. Nodes are equal to what one of them is equal to. -/
def equal : Value → Value → Bool
  | nodes ns, nodes ms =>
    let texts := ms.map d.stringValue
    ns.any fun n => texts.contains (d.stringValue n)
  | nodes ns, number x => ns.any fun n => numberOfText (d.stringValue n) == x
  | number x, nodes ns => ns.any fun n => numberOfText (d.stringValue n) == x
  | nodes ns, text s => ns.any fun n => d.stringValue n == s
  | text s, nodes ns => ns.any fun n => d.stringValue n == s
  | boolean b, v => b == v.toBoolean
  | v, boolean b => v.toBoolean == b
  | number x, v => x == v.toNumber d
  | v, number x => v.toNumber d == x
  | text s, text t => s == t

/-- The value of an operator that evaluates both sides. -/
def binary (op : Operator) (v w : Value) : Except Fault Value :=
  let x := v.toNumber d
  let y := w.toNumber d
  match op with
  | .or => .ok (boolean (v.toBoolean || w.toBoolean))
  | .and => .ok (boolean (v.toBoolean && w.toBoolean))
  | .equal => .ok (boolean (equal d v w))
  | .notEqual => .ok (boolean (!equal d v w))
  | .less => .ok (boolean (x < y))
  | .lessEqual => .ok (boolean (x ≤ y))
  | .greater => .ok (boolean (y < x))
  | .greaterEqual => .ok (boolean (y ≤ x))
  | .plus => .ok (number (x + y))
  | .minus => .ok (number (x - y))
  | .times => .ok (number (x * y))
  | .div => .ok (number (x / y))
  | .mod => .ok (number (Decimal.remainder x y))
  | .union => do
    let ns ← v.toNodes
    let ms ← w.toNodes
    return nodes (NodeRef.inOrder (ns ++ ms))

/-- A predicate with this value selects the node at a position. A number is cut to an integer and
stands for the position itself. -/
def selects (v : Value) (position : Nat) : Bool :=
  match v with
  | number x => x.toUInt64.toNat == position
  | v => v.toBoolean

end Value

end Triplify.XPath
