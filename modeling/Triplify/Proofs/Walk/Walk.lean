import Triplify.Proofs.Walk.Watch
/-!
# The walk over a configuration

The interpreter, watched: every node comes with its place, what it does on its own belongs to it, and
so does the error of a body that nests too deep. That this is what the interpreter does is shown in
`Triplify.Proofs.Walk.Relation`.
-/

namespace Triplify.Mapping

/-- Carries out the children of a node at a data node, on behalf of the node that is given first. -/
abbrev WalkBody := Located → Located → XPath.NodeRef → Watch Unit

section
variable (s : Setting)

/-- Carries out the children for a new subject. -/
def walkResource (body : WalkBody) (l : Located) (data : XPath.NodeRef) : Watch Unit := do
  let inner ← .own l (newSubject s l.node data)
  .within inner (body l l data)

/-- Carries out the children at each of some data nodes, and names the graph after each. -/
def walkMatches (body : WalkBody) (l : Located) : List XPath.NodeRef → Watch Unit
  | [] => return
  | data :: rest => do
    body l l data
    if l.node.has "namedgraph" then
      let _ ← Watch.naming l (.own l (assignGraph s l.node data))
    walkMatches body l rest

/-- Carries out the children at every node that the test selects. -/
def walkMapping (body : WalkBody) (l : Located) (data : XPath.NodeRef) : Watch Unit := do
  walkMatches s body l (← .own l (selected s l.node data))

/-- Carries out the children for a new blank node. -/
def walkBlank (body : WalkBody) (l : Located) (data : XPath.NodeRef) : Watch Unit := do
  let inner ← .own l (newBlank l.node)
  .within inner (body l l data)

/-- Carries out the children if the test holds, and tells whether it does. -/
def walkCondition (body : WalkBody) (l : Located) (data : XPath.NodeRef) : Watch Bool := do
  let holds ← .own l (conditionHolds s l.node data)
  if holds then body l l data
  return holds

/-- Carries out the children if the condition right before did not hold. -/
def walkOtherwise (body : WalkBody) (l : Located) (data : XPath.NodeRef) :
    Option ConditionResult → Watch Unit
  | some .notTaken => body l l data
  | some _ => return
  | none => .own l (throw (.config (.elseWithoutIf l.node.name)))

/-- Carries out the children so many times. -/
def walkRepeated (body : Watch Unit) : Nat → Watch Unit
  | 0 => return
  | n + 1 => do
    body
    walkRepeated body n

/-- Tries branches in order, and tells whether one of them held. -/
def walkBranches (body : WalkBody) (l : Located) (candidates : List String) (data : XPath.NodeRef)
    (matched : Bool) : List Located → Watch Bool
  | [] => return matched
  | c :: rest => do
    let hits ← .own l (branchHits s candidates c.node data)
    walkRepeated (body l c data) hits
    if hits = 0 then walkBranches body l candidates data matched rest
    else if c.node.has "break" then walkBranches body l candidates data true rest
    else return true

/-- Carries out the fallback of a switch, if there is one. -/
def walkFallback (body : WalkBody) (l : Located) (data : XPath.NodeRef) :
    List Located → Watch Unit
  | [] => return
  | [only] => body l only data
  | _ => .own l (throw (.config (.severalDefaults l.node.name)))

/-- Carries out the branches that hold, or the fallback if there are none. -/
def walkSwitch (body : WalkBody) (l : Located) (data : XPath.NodeRef) : Watch Unit := do
  let candidates ← .own l (switchCandidates s l.node data)
  if !(← walkBranches s body l candidates data false (l.childrenWith .branch)) then
    walkFallback body l data (l.childrenWith .fallback)

/-- Carries out the children of a named mapping. -/
def walkNamedMapping (body : WalkBody) (l : Located) (data : XPath.NodeRef) : Watch Unit := do
  let name ← .own l (Run.ofExcept (l.node.require "name"))
  match s.namedMapping? name with
  | some target => body l target data
  | none => .own l (throw (.missingNamedMapping name))

/-- Carries out a node that is no condition. -/
def walkNode (body : WalkBody) (before : Option ConditionResult) (l : Located)
    (data : XPath.NodeRef) : Watch Unit :=
  match l.node.tag with
  | .condition => do let _ ← walkCondition s body l data
  | .otherwise => walkOtherwise body l data before
  | .identifier => .own l (runIdentifier s l.node data)
  | .resource => walkResource s body l data
  | .mapping => walkMapping s body l data
  | .triple => .own l (runTriple s l.node data)
  | .type => .own l (runType s l.node data)
  | .bnode => walkBlank body l data
  | .switch => walkSwitch s body l data
  | .counter => .own l (runCounter l.node)
  | .uniqueIdentifier => .own l (runUniqueIdentifier l.node)
  | .error => .own l (runError l.node)
  | .useNamedMapping => walkNamedMapping s body l data
  | .branch => .own l (throw (.unrecognizedTag l.node.name l.node.source))
  | .fallback => .own l (throw (.unrecognizedTag l.node.name l.node.source))
  | .partition => return
  | .namespaces => return
  | .split => return
  | .namedMapping => return

/-- Carries out nodes in order. -/
def walkEach (body : WalkBody) (data : XPath.NodeRef) (before : Option ConditionResult) :
    List Located → Watch Unit
  | [] => return
  | l :: rest => do
    if l.node.tag = .condition then
      let result ← Watch.child l (walkCondition s body l data)
      walkEach body data (some (conditionResult result)) rest
    else
      let _ ← Watch.child l (walkNode s body before l data)
      walkEach body data none rest

/-- Carries out the children of a node, with so many levels left. -/
def walkChildren : Nat → WalkBody
  | 0, caller, l, _ => .own caller (throw (.processing (.tooDeep maxNesting l.node.name)))
  | levels + 1, _, l, data => walkEach s (walkChildren levels) data none l.children

/-- Carries out a configuration at the root of the document. -/
def walkConfig (g : Graph) (taken : Nat) : Watched Unit :=
  walkChildren s maxNesting s.root s.root .root { graph := g, registries := { taken := taken } }

/-- What happens in a run, in order. -/
def trace (g : Graph) (taken : Nat) : List Event := (walkConfig s g taken).events

end

end Triplify.Mapping
