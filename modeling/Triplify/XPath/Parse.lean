import Triplify.XPath.Token
/-!
# Reading path expressions

Operators bind from the weakest, `or`, to the strongest, `|`; all of them group to the left. A text
can be well formed and hold no expression at all, as the empty text does.
-/

namespace Triplify.XPath

/-- Reading from tokens, which may fail. -/
abbrev Reading := StateT (List Token) Option

namespace Reading

/-- The next token, if there is one. -/
def peek? : Reading (Option Token) := do
  return (← get).head?

/-- Steps over one token. -/
def advance : Reading Unit :=
  modify (·.drop 1)

/-- Steps over the closing token of a pair, which has to come. -/
def close (bracket : Bool) : Reading Unit := fun
  | .closeParen :: rest => if bracket then none else some ((), rest)
  | .closeBracket :: rest => if bracket then some ((), rest) else none
  | _ => none

/-- Steps over a slash, if one is next. -/
def slash : Reading Bool := fun
  | .slash :: rest => some (true, rest)
  | tokens => some (false, tokens)

/-- The binary operators, from those that bind least to those that bind most, unary minus apart. -/
def levels : List (List Operator) :=
  [[.or], [.and], [.equal, .notEqual], [.less, .lessEqual, .greater, .greaterEqual],
   [.plus, .minus], [.times, .div, .mod]]

/-- Steps over one of some operators, if one is next. -/
def operator? (ops : List Operator) : Reading (Option Operator) := fun
  | .operator op :: rest =>
    if ops.contains op then some (some op, rest) else some (none, .operator op :: rest)
  | tokens => some (none, tokens)

/-- The axis that is next, or the child axis. -/
def axis : Reading Axis := fun
  | .axis a :: rest => some (a, rest)
  | tokens => some (.child, tokens)

/-- The test that is next. -/
def test? : Reading (Option NodeTest) := fun
  | .nodeType t :: rest => some (some t, rest)
  | .name t :: rest => some (some t, rest)
  | tokens => some (none, tokens)

/-- What has to be there. -/
def required {α : Type} : Option α → Reading α
  | some a => return a
  | none => failure

mutual

/-- Reads operands and operators of the given levels. -/
def expression : Nat → List (List Operator) → Reading (Option Expr)
  | 0, _ => failure
  | fuel + 1, [] => unary fuel
  | fuel + 1, ops :: tighter => do
    match ← expression fuel tighter with
    | none => return none
    | some left => return some (← operands fuel ops tighter left)

/-- Reads the operands that follow on a level. -/
def operands : Nat → List Operator → List (List Operator) → Expr → Reading Expr
  | 0, _, _, _ => failure
  | fuel + 1, ops, tighter, left => do
    match ← operator? ops with
    | none => return left
    | some op =>
      let right ← required (← expression fuel tighter)
      operands fuel ops tighter (.binary op left right)

/-- Reads an operand with minus signs in front. -/
def unary : Nat → Reading (Option Expr)
  | 0 => failure
  | fuel + 1 => do
    match ← union fuel with
    | some e => return some e
    | none =>
      match ← operator? [.minus] with
      | none => return none
      | some _ => return some (.negate (← required (← unary fuel)))

/-- Reads paths with bars between them. -/
def union : Nat → Reading (Option Expr)
  | 0 => failure
  | fuel + 1 => do
    match ← path fuel with
    | none => return none
    | some left => return some (← members fuel left)

/-- Reads the paths that follow after bars. -/
def members : Nat → Expr → Reading Expr
  | 0, _ => failure
  | fuel + 1, left => do
    match ← operator? [.union] with
    | none => return left
    | some op =>
      let right ← required (← path fuel)
      members fuel (.binary op left right)

/-- Reads a path that starts with a step, at the root or with another expression. -/
def path : Nat → Reading (Option Expr)
  | 0 => failure
  | fuel + 1 => do
    match ← relative fuel .context with
    | some e => return some e
    | none =>
      if ← slash then
        return some ((← relative fuel .root).getD .root)
      else
        match ← filtered fuel with
        | none => return none
        | some e =>
          if ← slash then return some (← required (← relative fuel e))
          else return some e

/-- Reads steps with slashes between them. -/
def relative : Nat → Expr → Reading (Option Expr)
  | 0, _ => failure
  | fuel + 1, start => do
    match ← step fuel with
    | none => return none
    | some first => return some (.path start (first :: (← steps fuel)))

/-- Reads the steps that follow after slashes. -/
def steps : Nat → Reading (List Step)
  | 0 => failure
  | fuel + 1 => do
    if ← slash then
      let next ← required (← step fuel)
      return next :: (← steps fuel)
    else return []

/-- Reads a step. -/
def step : Nat → Reading (Option Step)
  | 0 => failure
  | fuel + 1 => do
    let a ← axis
    match ← test? with
    | none => return none
    | some t => return some (.mk a t (← predicates fuel))

/-- Reads predicates. -/
def predicates : Nat → Reading (List Expr)
  | 0 => failure
  | fuel + 1 => do
    match ← peek? with
    | some .openBracket => do
      advance
      let p ← required (← expression fuel levels)
      close true
      return p :: (← predicates fuel)
    | _ => return []

/-- Reads an expression that is no path, with predicates. -/
def filtered : Nat → Reading (Option Expr)
  | 0 => failure
  | fuel + 1 => do
    match ← primary fuel with
    | none => return none
    | some e => return some ((← predicates fuel).foldl .filter e)

/-- Reads a literal, a variable, a call or an expression in parentheses. -/
def primary : Nat → Reading (Option Expr)
  | 0 => failure
  | fuel + 1 => do
    match ← peek? with
    | some (.reference v) => advance; return some (.reference v)
    | some (.literal s) => advance; return some (.literal s)
    | some (.number x) => advance; return some (.number x)
    | some .openParen => do
      advance
      let e ← expression fuel levels
      close false
      return e
    | some (.function f) => do
      advance
      advance
      match ← peek? with
      | some .closeParen => advance; return some (.call f [])
      | _ =>
        let first ← required (← expression fuel levels)
        return some (.call f (first :: (← arguments fuel)))
    | _ => return none

/-- Reads the arguments that follow after commas, and the closing parenthesis. -/
def arguments : Nat → Reading (List Expr)
  | 0 => failure
  | fuel + 1 => do
    match ← peek? with
    | some .comma => do
      advance
      let a ← required (← expression fuel levels)
      return a :: (← arguments fuel)
    | _ => do
      close false
      return []

end

end Reading

/-- The result of reading an expression. -/
inductive Parsed
  | malformed
  | nothing
  | expression (e : Expr)

/-- Reads an expression. Between two tokens the reader goes through at most sixteen rules. -/
def Parsed.ofText (s : String) : Parsed :=
  match Token.ofText? s with
  | none => malformed
  | some tokens =>
    match (Reading.expression (16 * (tokens.length + 2)) Reading.levels).run tokens with
    | some (some e, []) => expression e
    | some (none, []) => nothing
    | _ => malformed

end Triplify.XPath
