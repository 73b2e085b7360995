import Triplify.Attribute
import Triplify.Mapping.Run
import Triplify.Sanitize
/-!
# The interpreter

Each node of a mapping is carried out by what its tag says, at a data node and for a subject. A node
that fails is recorded, and the mapping goes on with the next one; only an error that the
configuration raises itself ends the run. Nodes nest at most 64 levels deep, so that a named mapping
that uses itself comes to an end.

What a node does with its children is given by a `Body`: `runChildren` ties the knot, one level at a
time.
-/

namespace Triplify.Mapping

/-- Carries out the children of a node at a data node. -/
abbrev Body := Node → XPath.NodeRef → Run Unit

/-- How the condition right before a node turned out. -/
inductive ConditionResult
  | taken
  | notTaken
  | failed
deriving Repr, DecidableEq

variable (s : Setting)

/-- The IRI that an identifier stands for. -/
def identifierValue (n : Node) (data : XPath.NodeRef) : Run ShortIri := do
  let t ← Run.ofExcept (modifier s n)
  let vs ← Run.valuesOf s data n "value" t .one
  let raw := vs.head?.getD ""
  let id := Sanitize.uri raw
  if id.isEmpty then throw (.invalidIri raw)
  return s.config.namespaces.shorten id

/-- A new subject. With one identifier it is named at once; otherwise it is blank until one of the
children names it. -/
def newSubject (n : Node) (data : XPath.NodeRef) : Run Context := do
  match n.childrenWith .identifier with
  | [identifier] =>
    let id ← identifierValue s identifier data
    let handle ← Run.edit (.addNamed id)
    return ⟨some handle, true⟩
  | _ =>
    let handle ← Run.edit .addResource
    return ⟨some handle, false⟩

/-- Carries out the children for a new subject. -/
def runResource (body : Body) (n : Node) (data : XPath.NodeRef) : Run Unit := do
  let inner ← newSubject s n data
  Run.within inner (body n data)

/-- Moves the statements so far into the graph that a node names. -/
def assignGraph (n : Node) (data : XPath.NodeRef) : Run Unit := do
  match ← Run.valuesOf s data n "namedgraph" none .one with
  | name :: _ => Run.edit (.sealAs (Sanitize.uri name))
  | [] => return

/-- Carries out the children at each of some data nodes, and names the graph after each. -/
def runMatches (body : Body) (n : Node) : List XPath.NodeRef → Run Unit
  | [] => return
  | data :: rest => do
    body n data
    if n.has "namedgraph" then
      let _ ← Run.guarded n (assignGraph s n data)
    runMatches body n rest

/-- The nodes that the test selects. -/
def selected (n : Node) (data : XPath.NodeRef) : Run (List XPath.NodeRef) := do
  let raw ← Run.ofExcept (n.require "match")
  let expr ← Run.expression raw
  Run.ofExcept (s.paths.select expr data)

/-- Carries out the children at every node that the test selects. -/
def runMapping (body : Body) (n : Node) (data : XPath.NodeRef) : Run Unit := do
  runMatches s body n (← selected s n data)

/-- Makes statements with IRIs as their objects. -/
def addObjects (handle : Nat) (predicate : QualifiedName) : List String → Run Unit
  | [] => return
  | value :: rest => do
    let iri := Sanitize.uri value
    if !Text.isBlankText iri then
      Run.edit (.addObject handle predicate (s.config.namespaces.shorten iri))
    addObjects handle predicate rest

/-- Makes statements with literals as their objects. -/
def addLiterals (handle : Nat) (predicate : QualifiedName) (kind : LiteralKind) :
    List String → Run Unit
  | [] => return
  | value :: rest => do
    let text := Sanitize.literal (Text.trim value)
    if !text.isEmpty then
      Run.edit (.addLiteral handle predicate text kind)
    addLiterals handle predicate kind rest

/-- How the literals of a node are marked. A datatype goes before a language. -/
def literalKind (n : Node) : LiteralKind :=
  match n.get? "type", n.get? "language" with
  | some datatype, _ => .typed datatype
  | none, some tag => .language tag
  | none, none => .plain

/-- Makes a statement for each value. -/
def runTriple (n : Node) (data : XPath.NodeRef) : Run Unit := do
  let predicate ← Run.ofExcept (do QualifiedName.parse (← n.require "predicate"))
  let handle ← Run.subject n
  let t ← Run.ofExcept (modifier s n)
  if n.has "object" then
    addObjects s handle predicate (← Run.valuesOf s data n "object" t .any)
  else
    let _ ← Run.ofExcept (n.require "value")
    addLiterals handle predicate (literalKind n) (← Run.valuesOf s data n "value" t .any)

/-- Gives the subject classes. -/
def addClasses (handle : Nat) : List String → Run Unit
  | [] => return
  | value :: rest => do
    Run.edit <|
      .addObject handle ⟨"rdf", "type"⟩ (s.config.namespaces.shorten (Text.trim value))
    addClasses handle rest

/-- Gives the subject its classes. -/
def runType (n : Node) (data : XPath.NodeRef) : Run Unit := do
  let handle ← Run.subject n
  addClasses s handle (← Run.valuesOf s data n "value" none .some)

/-- A new blank node with a class, which the subject refers to. -/
def newBlank (n : Node) : Run Context := do
  let predicate ← Run.ofExcept (do QualifiedName.parse (← n.require "predicate"))
  let type ← Run.ofExcept (do QualifiedName.parse (← n.require "type"))
  let handle ← Run.subject n
  let blank ← Run.edit (.addBlank type)
  Run.edit (.link handle predicate blank)
  return ⟨some blank, false⟩

/-- Carries out the children for a new blank node. -/
def runBlank (body : Body) (n : Node) (data : XPath.NodeRef) : Run Unit := do
  let inner ← newBlank n
  Run.within inner (body n data)

/-- Names the subject, unless it has a name. -/
def runIdentifier (n : Node) (data : XPath.NodeRef) : Run Unit := do
  if !(← get).context.hasIdentifier then
    let handle ← Run.subject n
    let id ← identifierValue s n data
    Run.edit (.identify handle id)
    modify fun st => { st with context := { st.context with hasIdentifier := true } }

/-- The test holds. -/
def conditionHolds (n : Node) (data : XPath.NodeRef) : Run Bool := do
  let raw ← Run.ofExcept (n.require "match")
  let expr ← Run.expression raw
  return (← Run.ofExcept (s.paths.evaluate expr data)).isTruthy

/-- Carries out the children if the test holds, and tells whether it does. -/
def runCondition (body : Body) (n : Node) (data : XPath.NodeRef) : Run Bool := do
  let holds ← conditionHolds s n data
  if holds then body n data
  return holds

/-- Carries out the children if the condition right before did not hold. -/
def runOtherwise (body : Body) (n : Node) (data : XPath.NodeRef) :
    Option ConditionResult → Run Unit
  | some .notTaken => body n data
  | some _ => return
  | none => throw (.config (.elseWithoutIf n.name))

/-- Carries out the children so many times. -/
def repeated (body : Run Unit) : Nat → Run Unit
  | 0 => return
  | n + 1 => do
    body
    repeated body n

/-- How often a branch of a switch is to be carried out: once if its test selects a node, or as often
as its value is among the candidates. -/
def branchHits (candidates : List String) (n : Node) (data : XPath.NodeRef) : Run Nat := do
  match n.get? "match", n.get? "value" with
  | some raw, _ =>
    let expr ← Run.expression raw
    let nodes ← Run.ofExcept (s.paths.select expr data)
    return if nodes.isEmpty then 0 else 1
  | none, some value => return candidates.count value
  | none, none => throw (.config (.caseWithoutTest n.name n.source))

/-- Tries branches in order, and tells whether one of them held. The first that holds is the last
one, unless it has an attribute `break`. -/
def runBranches (body : Body) (candidates : List String) (data : XPath.NodeRef) (matched : Bool) :
    List Node → Run Bool
  | [] => return matched
  | c :: rest => do
    let hits ← branchHits s candidates c data
    repeated (body c data) hits
    if hits = 0 then runBranches body candidates data matched rest
    else if c.has "break" then runBranches body candidates data true rest
    else return true

/-- The texts that branches compare their values with. -/
def switchCandidates (n : Node) (data : XPath.NodeRef) : Run (List String) := do
  match n.get? "match" with
  | none => return []
  | some raw =>
    let expr ← Run.expression raw
    let nodes ← Run.ofExcept (s.paths.select expr data)
    return nodes.map s.paths.document.stringValue

/-- Carries out the fallback of a switch, if there is one. -/
def runFallback (body : Body) (n : Node) (data : XPath.NodeRef) : List Node → Run Unit
  | [] => return
  | [only] => body only data
  | _ => throw (.config (.severalDefaults n.name))

/-- Carries out the branches that hold, or the fallback if there are none. -/
def runSwitch (body : Body) (n : Node) (data : XPath.NodeRef) : Run Unit := do
  let candidates ← switchCandidates s n data
  if !(← runBranches s body candidates data false (n.childrenWith .branch)) then
    runFallback body n data (n.childrenWith .fallback)

/-- The value that a counter starts with. -/
def initialValue (n : Node) : Except MappingError Int :=
  match n.get? "initialValue" with
  | some value => Attribute.integer n.name "initialValue" value
  | none => .ok 0

/-- Steps a counter, or defines it. -/
def runCounter (n : Node) : Run Unit := do
  let name ← Run.ofExcept (n.require "name")
  if ← Run.ofExcept (flag n "iterate" false) then
    let (_, r) ← Run.ofExcept ((← get).registries.iterate name)
    modify fun st => { st with registries := r }
  else
    let value ← Run.ofExcept (initialValue n)
    let iteration := ((n.get? "iteration").map Iteration.ofText).getD .increment
    modify fun st => { st with registries := st.registries.define name value iteration }

/-- Gives a named identifier a fresh value, unless it is switched off. -/
def runUniqueIdentifier (n : Node) : Run Unit := do
  let name ← Run.ofExcept (n.require "name")
  if ← Run.ofExcept (flag n "generate" true) then
    modify fun st => { st with registries := (st.registries.generate name).2 }

/-- Raises an error of the configuration, which ends the run or is recorded as a warning. -/
def runError (n : Node) : Run Unit := do
  let message ← Run.ofExcept (n.require "message")
  if ← Run.ofExcept (flag n "exit" false) then
    throw (.userDefined message)
  else
    modify fun st => { st with
      diagnostics := st.diagnostics.warn s!"User specified error: {message}" (some n.source) }

/-- Carries out the children of a named mapping. -/
def runNamedMapping (body : Body) (n : Node) (data : XPath.NodeRef) : Run Unit := do
  let name ← Run.ofExcept (n.require "name")
  match s.config.namedMapping? name with
  | some target => body target data
  | none => throw (.missingNamedMapping name)

/-- Carries out a node that is no condition. -/
def runNode (body : Body) (before : Option ConditionResult) (n : Node) (data : XPath.NodeRef) :
    Run Unit :=
  match n.tag with
  | .condition => do let _ ← runCondition s body n data
  | .otherwise => runOtherwise body n data before
  | .identifier => runIdentifier s n data
  | .resource => runResource s body n data
  | .mapping => runMapping s body n data
  | .triple => runTriple s n data
  | .type => runType s n data
  | .bnode => runBlank body n data
  | .switch => runSwitch s body n data
  | .counter => runCounter n
  | .uniqueIdentifier => runUniqueIdentifier n
  | .error => runError n
  | .useNamedMapping => runNamedMapping s body n data
  | .branch => throw (.unrecognizedTag n.name n.source)
  | .fallback => throw (.unrecognizedTag n.name n.source)
  | .partition => return
  | .namespaces => return
  | .split => return
  | .namedMapping => return

/-- How a condition turned out. -/
def conditionResult : Except MappingError Bool → ConditionResult
  | .ok true => .taken
  | .ok false => .notTaken
  | .error _ => .failed

/-- Carries out nodes in order. A condition is remembered for the node right after it; failures are
recorded. -/
def runEach (body : Body) (data : XPath.NodeRef) (before : Option ConditionResult) :
    List Node → Run Unit
  | [] => return
  | n :: rest => do
    if n.tag = .condition then
      let result ← Run.guarded n (runCondition s body n data)
      runEach body data (some (conditionResult result)) rest
    else
      let _ ← Run.guarded n (runNode s body before n data)
      runEach body data none rest

/-- The number of levels that nodes can nest. -/
def maxNesting : Nat := 64

/-- Carries out the children of a node, with so many levels left. -/
def runChildren : Nat → Body
  | 0, n, _ => throw (.processing (.tooDeep maxNesting n.name))
  | levels + 1, n, data => runEach s (runChildren levels) data none n.children

/-- Carries out a configuration at the root of the document, after so many fresh identifiers have
been taken. An error is the one that ended the run. -/
def runConfig (g : Graph) (taken : Nat) : Except MappingError Unit × RunState :=
  let start : RunState := { graph := g, registries := { taken := taken } }
  (runChildren s maxNesting s.config.root .root).exec start

end Triplify.Mapping
