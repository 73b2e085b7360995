import Triplify.XPath.Value
/-!
# Core functions

The functions of XPath 1.0 that expressions can call. Arguments are taken for the type that a
function needs; only nodes cannot be made from other values.
-/

namespace Triplify.XPath

/-- Where an expression is evaluated: a node and its position among others. -/
structure Context where
  node : NodeRef
  position : Nat := 1
  size : Nat := 1

/-- The nearest integer; of two that are equally near the larger. A zero keeps the sign. -/
def roundUp (x : Float) : Float :=
  let y := x.floor
  if x == y then x
  else
    let z := (2.0 * x - y).floor
    if x < 0 then -z.abs else z

/-- The words of a text with one space between them. -/
def normalizeSpace (s : String) : String :=
  " ".intercalate ((Text.words s.toList).map String.ofList)

/-- Puts the characters of one list in place of those of another; a character without a partner is
dropped. -/
def translate (s source target : List Char) : List Char :=
  s.filterMap fun c =>
    match source.idxOf? c with
    | none => some c
    | some i => target[i]?

/-- The characters of a text from a position on, up to so many. Positions and counts are rounded. -/
def substring (s : String) (start : Float) (count : Option Float) : String :=
  let first := roundUp start
  let isIn := fun (i : Nat) =>
    let p := Float.ofNat (i + 1)
    first ≤ p && (match count with
      | none => p < first + 1.0 / 0.0
      | some n => p < first + roundUp n)
  String.ofList ((s.toList.zipIdx.filter fun (_, i) => isIn i).map Prod.fst)

/-- The names of the functions, with the smallest and the largest number of arguments. -/
def arities : List (String × Nat × Option Nat) :=
  [("last", 0, some 0), ("position", 0, some 0), ("count", 1, some 1), ("local-name", 0, some 1),
   ("namespace-uri", 0, some 1), ("name", 0, some 1), ("string", 0, some 1), ("concat", 2, none),
   ("starts-with", 2, some 2), ("contains", 2, some 2), ("substring-before", 2, some 2),
   ("substring-after", 2, some 2), ("substring", 2, some 3), ("string-length", 0, some 1),
   ("normalize-space", 0, some 1), ("translate", 3, some 3), ("boolean", 1, some 1),
   ("not", 1, some 1), ("true", 0, some 0), ("false", 0, some 0), ("number", 0, some 1),
   ("sum", 1, some 1), ("floor", 1, some 1), ("ceiling", 1, some 1), ("round", 1, some 1)]

/-- A function of the names of nodes, applied to the first node of the argument. -/
def firstName (name? : NodeRef → Option String) (v : Value) : Except Fault Value := do
  match ← v.toNodes with
  | [] => return .text ""
  | n :: _ => return .text ((name? n).getD "")

/-- Applies a function to as many arguments as it takes. -/
def apply (d : Xml.Document) (c : Context) (function : String) (arguments : List Value) :
    Except Fault Value :=
  let here : Value := .nodes [c.node]
  let arg := fun (i : Nat) => (arguments[i]?).getD here
  let text := fun (i : Nat) => (arg i).toText d
  let number := fun (i : Nat) => (arg i).toNumber d
  match function with
  | "last" => .ok (.number (Float.ofNat c.size))
  | "position" => .ok (.number (Float.ofNat c.position))
  | "count" => (arg 0).toNodes.map fun ns => .number (Float.ofNat ns.length)
  | "local-name" => firstName d.localName? (arg 0)
  | "namespace-uri" => firstName d.namespaceOf? (arg 0)
  | "name" => firstName d.labelledName? (arg 0)
  | "string" => .ok (.text (text 0))
  | "concat" => .ok (.text (String.join (arguments.map fun v => v.toText d)))
  | "starts-with" => .ok (.boolean ((text 1).toList.isPrefixOf (text 0).toList))
  | "contains" => .ok (.boolean (Text.occurs (text 1).toList (text 0).toList))
  | "substring-before" =>
    .ok (.text ((Text.cut? (text 1).toList (text 0).toList).elim "" fun p => String.ofList p.1))
  | "substring-after" =>
    .ok (.text ((Text.cut? (text 1).toList (text 0).toList).elim "" fun p => String.ofList p.2))
  | "substring" =>
    .ok (.text (substring (text 0) (number 1) ((arguments[2]?).map fun v => v.toNumber d)))
  | "string-length" => .ok (.number (Float.ofNat (text 0).length))
  | "normalize-space" => .ok (.text (normalizeSpace (text 0)))
  | "translate" =>
    .ok (.text (String.ofList (translate (text 0).toList (text 1).toList (text 2).toList)))
  | "boolean" => .ok (.boolean (arg 0).toBoolean)
  | "not" => .ok (.boolean !(arg 0).toBoolean)
  | "true" => .ok (.boolean true)
  | "false" => .ok (.boolean false)
  | "number" => .ok (.number (number 0))
  | "sum" => (arg 0).toNodes.map fun ns =>
    .number (ns.foldl (fun total n => total + numberOfText (d.stringValue n)) 0.0)
  | "floor" => .ok (.number (number 0).floor)
  | "ceiling" => .ok (.number (number 0).ceil)
  | "round" => .ok (.number (roundUp (number 0)))
  | _ => .error (.unknownFunction function)

/-- Calls a function, which has to be known under a name without a label. -/
def call (d : Xml.Document) (c : Context) (name : Xml.TagName) (arguments : List Value) :
    Except Fault Value :=
  match name.label, arities.lookup name.localName with
  | none, some (low, high) =>
    if low ≤ arguments.length && high.all (arguments.length ≤ ·) then
      apply d c name.localName arguments
    else .error (.wrongArgumentCount name.localName)
  | _, _ => .error (.unknownFunction name.localName)

end Triplify.XPath
