import Triplify.Attribute
import Triplify.Diagnostics
import Triplify.Graph
import Triplify.Mapping.Config
import Triplify.Mapping.Values
/-!
# Runs

What a mapping has built so far while it runs over a document: the graph, the counters and
identifiers, the diagnostics, and the subject that statements are about. A step that fails keeps
what it has built.
-/

namespace Triplify.Mapping

/-- The subject that statements are about, and whether it has its identifier. -/
structure Context where
  subject : Option Nat := none
  hasIdentifier : Bool := false
deriving Repr, DecidableEq, Inhabited

/-- The subject that the statements of a node are about, which has to be there. -/
def Context.handle (c : Context) (n : Node) : Except MappingError Nat :=
  match c.subject with
  | some handle => .ok handle
  | none => .error (.noSubject n.name)

/-- What a run looks at and does not change. -/
structure Setting where
  config : Config
  transforms : TransformRegistry
  paths : XPath.Environment

/-- What a run has built so far. -/
structure RunState where
  graph : Graph
  registries : Registries := {}
  diagnostics : Diagnostics := {}
  context : Context := {}

/-- A step of a run. -/
abbrev Run := ExceptT MappingError (StateM RunState)

namespace Run

/-- The outcome of a step from a state, and the state after it. -/
def exec {α : Type} (step : Run α) (s : RunState) : Except MappingError α × RunState :=
  step.run s |>.run

/-- A result that does not depend on the run. -/
def ofExcept {α : Type} : Except MappingError α → Run α
  | .ok a => pure a
  | .error e => throw e

/-- Edits the graph. -/
def edit {α : Type} (step : GraphEdit α) : Run α := fun s =>
  let (result, g) := step.exec s.graph
  (result, { s with graph := g })

/-- The subject that the statements of a node are about. -/
def subject (n : Node) : Run Nat := do
  ofExcept ((← get).context.handle n)

/-- Runs a body for another subject and comes back to this one, also after a failure. -/
def within (inner : Context) (body : Run Unit) : Run Unit := fun s =>
  let (result, after) := body.exec { s with context := inner }
  (result, { after with context := s.context })

/-- The outcome of a step that may fail. -/
def attempt {α : Type} (step : Run α) : Run (Except MappingError α) := fun s =>
  let (result, after) := step.exec s
  (.ok result, after)

/-- Records the failure of a node, unless it ends the run. -/
def recover (n : Node) (e : MappingError) : Run Unit :=
  if e.isFatal then throw e
  else modify fun s =>
    { s with diagnostics := s.diagnostics.error s!"Error in <{n.tag.text}> tag: {e.message}" (some n.source) }

/-- The outcome of a step whose failure is recorded for a node. -/
def guarded {α : Type} (n : Node) (step : Run α) : Run (Except MappingError α) := do
  let result ← attempt step
  if let .error e := result then recover n e
  return result

/-- The expression of a test, with its calls replaced by their values. -/
def expression (raw : String) : Run String := do
  ofExcept (prepareMatch (← get).registries raw)

/-- The values of an attribute. -/
def valuesOf (s : Setting) (data : XPath.NodeRef) (n : Node) (key : String)
    (t : Option Transform) (b : Bounds) : Run (List String) := do
  ofExcept (values s.paths (← get).registries data n key t b)

end Run

/-- The transform that a node names, if it names one. -/
def modifier (s : Setting) (n : Node) : Except MappingError (Option Transform) :=
  match n.get? "modifier" with
  | none => .ok none
  | some name => (s.transforms.resolve name).map some

/-- The value of a boolean attribute that may be missing. -/
def flag (n : Node) (key : String) (fallback : Bool) : Except MappingError Bool :=
  match n.get? key with
  | none => .ok fallback
  | some value => Attribute.boolean n.name key value

end Triplify.Mapping
