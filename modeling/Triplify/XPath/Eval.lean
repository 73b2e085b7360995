import Triplify.Error
import Triplify.Text.Category
import Triplify.XPath.Function
import Triplify.XPath.Parse
/-!
# Evaluating path expressions

`Expr.eval` gives the value of an expression at a node. A predicate is evaluated once for each node
that it may keep; the right side of `and` and `or` only if the left side does not decide.
`PathEnvironment.evaluate` reads an expression and evaluates it.
-/

namespace Triplify.XPath

/-- A document and the namespaces that labels in expressions stand for. -/
structure Environment where
  document : Xml.Document
  namespaces : List (String × String)

/-- Keeps the nodes for which a predicate holds at their position. -/
def select (predicate : Context → Except Fault Value) (nodes : List NodeRef) :
    Except Fault (List NodeRef) := do
  let kept ← nodes.zipIdx.mapM fun (n, i) => do
    let v ← predicate ⟨n, i + 1, nodes.length⟩
    return if v.selects (i + 1) then some n else none
  return kept.filterMap id

/-- The results of a function for several nodes, in document order and each once. -/
def gather (f : NodeRef → Except Fault (List NodeRef)) (nodes : List NodeRef) :
    Except Fault (List NodeRef) := do
  return NodeRef.inOrder (← nodes.mapM f).flatten

mutual

/-- The value of an expression. -/
def Expr.eval (env : Environment) (c : Context) : Expr → Except Fault Value
  | .binary op left right => do
    let v ← left.eval env c
    -- A side that decides alone is not looked past.
    if (op = .or && v.toBoolean) || (op = .and && !v.toBoolean) then
      return .boolean v.toBoolean
    else
      v.binary env.document op (← right.eval env c)
  | .negate e => do return .number (-(← e.eval env c).toNumber env.document)
  | .literal s => .ok (.text s)
  | .number x => .ok (.number x)
  | .reference name => .error (.unknownVariable name.localName)
  | .call name arguments => do call env.document c name (← evalAll env c arguments)
  | .context => .ok (.nodes [c.node])
  | .root => .ok (.nodes [NodeRef.root])
  | .path start steps => do
    let nodes ← (← start.eval env c).toNodes
    return .nodes (← walk env nodes steps)
  | .filter e predicate => do
    let nodes ← (← e.eval env c).toNodes
    return .nodes (← select (fun c => predicate.eval env c) nodes)

/-- The values of several expressions. -/
def evalAll (env : Environment) (c : Context) : List Expr → Except Fault (List Value)
  | [] => .ok []
  | e :: rest => do
    let v ← e.eval env c
    return v :: (← evalAll env c rest)

/-- The nodes that are reached from some nodes by steps. -/
def walk (env : Environment) (nodes : List NodeRef) : List Step → Except Fault (List NodeRef)
  | [] => .ok nodes
  | s :: rest => do walk env (← gather (fun n => s.reach env n) nodes) rest

/-- The nodes that are reached from a node by one step, from near to far. -/
def Step.reach (env : Environment) (n : NodeRef) : Step → Except Fault (List NodeRef)
  | .mk axis test predicates =>
    keep env ((env.document.along axis n).filter (env.document.passes env.namespaces axis test))
      predicates

/-- The nodes that pass all predicates, one after the other. -/
def keep (env : Environment) (nodes : List NodeRef) : List Expr → Except Fault (List NodeRef)
  | [] => .ok nodes
  | p :: rest => do keep env (← select (fun c => p.eval env c) nodes) rest

end

namespace Environment

/-- Reads an expression and evaluates it at a node. -/
def evaluate (env : Environment) (expr : String) (n : NodeRef) : Except MappingError Value :=
  match Parsed.ofText expr with
  | .malformed => .error (.path (.notCompiled expr))
  | .nothing => .error (.path (.noExpression expr))
  | .expression e =>
    match e.eval env ⟨n, 1, 1⟩ with
    | .ok v => .ok v
    | .error _ => .error (.path (.notEvaluated expr))

/-- A character as it is shown in quotes: those that would be hard to see are escaped. -/
def shown (c : Char) : String :=
  if c == '"' then "\\\"" else if c == '\\' then "\\\\" else if c == '\n' then "\\n"
  else if c == '\t' then "\\t" else if c == '\r' then "\\r" else if c == '\x00' then "\\0"
  else if Text.isVisible c then String.singleton c
  else "\\u\x7b" ++ String.ofList (Nat.toDigits 16 c.toNat) ++ "\x7d"

/-- A text in quotes. -/
def quote (s : String) : String :=
  "\"" ++ String.join (s.toList.map shown) ++ "\""

/-- Reads an expression and evaluates it to nodes. -/
def select (env : Environment) (expr : String) (n : NodeRef) :
    Except MappingError (List NodeRef) := do
  match ← env.evaluate expr n with
  | .nodes ns => return ns
  | .text s => .error (.path (.notNodes expr ("Text(" ++ quote s ++ ")")))
  | .number x => .error (.path (.notNodes expr ("Number(" ++ Decimal.detailed x ++ ")")))
  | .boolean b => .error (.path (.notNodes expr s!"Boolean({b})"))

end Environment

/-- The truth of a value in a condition. A text of nothing but white space is false. -/
def Value.isTruthy : Value → Bool
  | nodes ns => !ns.isEmpty
  | text s => !Text.isBlankText s
  | number x => x != 0.0 && !x.isNaN
  | boolean b => b

end Triplify.XPath
