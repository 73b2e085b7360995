import Triplify.Mapping.Node
import Triplify.Template
import Triplify.Transform
import Triplify.XPath.Eval
/-!
# Values of attributes

The values that an attribute of a mapping node has at a data node. Text without placeholders is its
own value. A path that spans the whole text has one value for each selected node. In all other
cases there is one value, put together from the parts, in which a path stands for one node. Blank
values are dropped, and the rest follow the text of the attribute `prefix`.
-/

namespace Triplify.Mapping

/-- The values put together, and whether a placeholder gave text that is not blank. -/
structure Assembled where
  text : List Char := []
  matched : Bool := false

/-- How many values an attribute must have; without a maximum there may be any number. -/
structure Bounds where
  min : Nat
  max : Option Nat

namespace Bounds

/-- Any number of values. -/
def any : Bounds := ⟨0, none⟩

/-- At least one value. -/
def some : Bounds := ⟨1, none⟩

/-- Exactly one value. -/
def one : Bounds := ⟨1, .some 1⟩

/-- The number of values is within the bounds. -/
def check (b : Bounds) (key template : String) (found : Nat) : Except MappingError Unit :=
  if found < b.min then .error (.tooFewValues key template b.min found)
  else match b.max with
    | .some max =>
      if max < found then .error (.tooManyValues key template max found) else .ok ()
    | none => .ok ()

end Bounds

/-- Applies a transform, if there is one. -/
def transformed (t : Option Transform) (value : String) : String :=
  match t with
  | some f => f value
  | none => value

/-- A value after a text in front, unless it is blank. -/
def kept (front value : String) : List String :=
  if Text.isBlankText value then [] else [front ++ value]

/-- The text of a value that is no set of nodes. -/
def scalarText : XPath.Value → String
  | .nodes _ => ""
  | .text s => s
  | .number x => Decimal.rounded x
  | .boolean b => if b then "true" else "false"

/-- The values of a path: the texts of the selected nodes that have any, or the one other value. -/
def pathValues (env : XPath.Environment) : XPath.Value → List String
  | .nodes ns => (ns.map env.document.stringValue).filter (!·.isEmpty)
  | v => [scalarText v]

/-- The values of a placeholder that spans the whole text. -/
def soleValues (env : XPath.Environment) (r : Registries) (data : XPath.NodeRef) :
    Segment → Except MappingError (List String)
  | .literal text => .ok [String.ofList text]
  | .call c => (c.resolve r).map fun v => [String.ofList v]
  | .path expr => do
    let expr ← resolveCalls r (String.ofList expr)
    return pathValues env (← env.evaluate expr data)

/-- The text that a path stands for among other parts. If it is the only placeholder it may select
no node or several, of which the first counts. -/
def partText (env : XPath.Environment) (key template : String) (isOnly : Bool) (expr : String) :
    XPath.Value → Except MappingError String
  | .nodes [] =>
    if isOnly then .ok "" else .error (.noMatch ("\x7b" ++ expr ++ "\x7d") key template)
  | .nodes [n] => .ok (env.document.stringValue n)
  | .nodes (n :: _) =>
    if isOnly then .ok (env.document.stringValue n)
    else .error (.multipleMatches ("\x7b" ++ expr ++ "\x7d") key template)
  | v => .ok (scalarText v)

/-- The values of the calls of a template, in order. The first call that has no value decides, before
any path is evaluated. -/
def callValues (r : Registries) : List Segment → Except MappingError (List (List Char))
  | [] => .ok []
  | .call c :: rest => do
    let value ← c.resolve r
    let values ← callValues r rest
    return value :: values
  | _ :: rest => callValues r rest

/-- Puts the segments of a template together. Each call takes the next one of the values. -/
def assemble (env : XPath.Environment) (r : Registries) (data : XPath.NodeRef)
    (key template : String) (isOnly : Bool) (done : Assembled) (values : List (List Char)) :
    List Segment → Except MappingError Assembled
  | [] => .ok done
  | .literal text :: rest =>
    assemble env r data key template isOnly { done with text := done.text ++ text } values rest
  | .call _ :: rest =>
    let value := values.head?.getD []
    assemble env r data key template isOnly ⟨done.text ++ value, true⟩ values.tail rest
  | .path expr :: rest => do
    let expr ← resolveCalls r (String.ofList expr)
    let part ← partText env key template isOnly expr (← env.evaluate expr data)
    let matched := done.matched || !Text.isBlankText part
    assemble env r data key template isOnly ⟨done.text ++ part.toList, matched⟩ values rest

/-- The values that a template has. -/
def templateValues (env : XPath.Environment) (r : Registries) (data : XPath.NodeRef)
    (key text : String) (t : Option Transform) (front : String) :
    Except MappingError (List String) :=
  let template := Template.parse text
  if template.placeholderCount = 0 then .ok (kept front (transformed t text))
  else match template.sole? with
    | some segment => do
      let values ← soleValues env r data segment
      return values.flatMap fun v => kept front (transformed t v)
    | none => do
      let values ← callValues r template.segments
      let isOnly := template.placeholderCount == 1
      let a ← assemble env r data key text isOnly {} values template.segments
      return if a.matched then kept front (transformed t (String.ofList a.text)) else []

/-- The values of an attribute. -/
def values (env : XPath.Environment) (r : Registries) (data : XPath.NodeRef) (n : Node)
    (key : String) (t : Option Transform) (b : Bounds) : Except MappingError (List String) :=
  match n.get? key with
  | none => if b.min > 0 then .error (.missingAttribute key n.source) else .ok []
  | some text => do
    let vs ← templateValues env r data key text t ((n.get? "prefix").getD "")
    b.check key text vs.length
    return vs

end Triplify.Mapping
