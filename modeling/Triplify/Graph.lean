import Triplify.Format
import Triplify.Iri.Resolve
import Triplify.Rdf.LanguageTag
import Triplify.Rdf.Term
/-!
# Graphs

A graph is built statement by statement. Subjects are slots, which are blank until they are given
an IRI; statements made before that follow. Naming a graph seals the statements since the last
graph was named; what is left at the end belongs to the default graph. `GraphEdit` has the steps that
build a graph.

`Graph.quads` lists all statements, `Graph.dataset` the same with the blank nodes numbered.
-/

namespace Triplify

/-- The object of a statement: an IRI, a slot or a literal. -/
inductive GraphObject
  | iri (iri : String)
  | slot (n : Nat)
  | literal (l : Rdf.Literal)
deriving Repr, DecidableEq

/-- A statement about a slot. -/
structure GraphStatement where
  subject : Nat
  predicate : String
  object : GraphObject
deriving Repr, DecidableEq

/-- The statements of a named graph. -/
structure SealedGraph where
  name : String
  statements : Array GraphStatement
deriving Repr

/-- How a literal is marked: not at all, with a datatype, or with a language. -/
inductive LiteralKind
  | plain
  | typed (datatype : String)
  | language (tag : String)
deriving Repr, DecidableEq

/-- What names in a graph stand for: the namespaces of labels, and the base of relative references. -/
structure Naming where
  namespaces : NamespaceTable
  base : Option String

namespace Naming

/-- The IRI that a text stands for. -/
def resolve (v : Naming) (value : String) : Except MappingError String :=
  match Iri.ofText? v.base value with
  | some iri => .ok iri
  | none => .error (.invalidIri value)

/-- The IRI that a short IRI stands for. -/
def shortIri (v : Naming) (id : ShortIri) : Except MappingError String := do
  v.resolve (← v.namespaces.expand id)

/-- The IRI that a qualified name stands for. -/
def nameIri (v : Naming) (n : QualifiedName) : Except MappingError String := do
  v.resolve (← v.namespaces.expandName n)

/-- The IRI of a datatype, which may be a qualified name with a known label. -/
def datatypeIri (v : Naming) (datatype : String) : Except MappingError String :=
  match QualifiedName.parse datatype with
  | .ok n =>
    if (v.namespaces.get? n.label).isSome then v.nameIri n else v.resolve (Text.trim datatype)
  | .error _ => v.resolve (Text.trim datatype)

/-- A literal of a kind. -/
def literal (v : Naming) (text : String) : LiteralKind → Except MappingError Rdf.Literal
  | .plain => .ok ⟨text, .plain⟩
  | .typed datatype => (v.datatypeIri datatype).map (Rdf.Literal.ofType text)
  | .language tag =>
    match LanguageTag.ofText? (Text.trim tag) with
    | some t => .ok ⟨text, .tagged t⟩
    | none => .error (.processing (.languageTag tag))

end Naming

/-- A graph under construction. -/
structure Graph extends Naming where
  format : OutputFormat
  slots : Array (Option String) := #[]
  current : Array GraphStatement := #[]
  sealed : Array SealedGraph := #[]

namespace Graph

/-- The base is an IRI. -/
def checkBase (base : String) : Except MappingError Unit :=
  if Iri.isAbsolute base.toList then .ok () else .error (.invalidIri base)

/-- A graph without statements. Relative references are resolved against the base. -/
def empty (namespaces : NamespaceTable) (format : OutputFormat) (base : Option String) :
    Except MappingError Graph := do
  if let some b := base then checkBase b
  return ⟨⟨namespaces, base⟩, format, #[], #[], #[]⟩

/-- The number of statements. -/
def size (g : Graph) : Nat :=
  g.current.size + (g.sealed.toList.map (·.statements.size)).foldr (· + ·) 0

/-- The subject that a slot stands for. -/
def subject (g : Graph) (slot : Nat) : Rdf.Subject :=
  match g.slots[slot]? with
  | some (some iri) => .iri iri
  | _ => .blank slot

/-- The term that an object stands for. -/
def term (g : Graph) : GraphObject → Rdf.Term
  | .iri iri => .node (.iri iri)
  | .slot n => .node (g.subject n)
  | .literal l => .literal l

/-- A statement with the terms that its parts stand for. -/
def triple (g : Graph) (s : GraphStatement) : Rdf.Triple :=
  ⟨g.subject s.subject, s.predicate, g.term s.object⟩

/-- A statement in a graph, with the terms that its parts stand for. -/
def quad (g : Graph) (name : Option String) (s : GraphStatement) : Rdf.Quad :=
  ⟨g.triple s, name⟩

/-- All statements with their graphs, in the order in which they were made. -/
def quads (g : Graph) : List Rdf.Quad :=
  g.sealed.toList.flatMap (fun s => s.statements.toList.map (g.quad (some s.name))) ++
    g.current.toList.map (g.quad none)

/-- All statements without their graphs. -/
def triples (g : Graph) : List Rdf.Triple :=
  (g.sealed.toList.flatMap (·.statements.toList) ++ g.current.toList).map g.triple

/-- All statements, with blank nodes numbered as they appear. -/
def dataset (g : Graph) : List Rdf.Quad := Rdf.numbered g.quads

/-- The slot of a handle. -/
def slot (g : Graph) (handle : Nat) : Except MappingError Nat :=
  if handle < g.slots.size then .ok handle else .error (.processing (.unknownHandle handle))

/-- A new slot, and its handle. -/
def newSlot (g : Graph) (iri : Option String) : Nat × Graph :=
  (g.slots.size, { g with slots := g.slots.push iri })

/-- Makes a statement. -/
def push (g : Graph) (subject : Nat) (predicate : String) (object : GraphObject) : Graph :=
  { g with current := g.current.push ⟨subject, predicate, object⟩ }

end Graph

/-! ## Edits -/

/-- A step that changes a graph in place. Where it fails, what it has done so far stays done. -/
abbrev GraphEdit := ExceptT MappingError (StateM Graph)

namespace GraphEdit

/-- The outcome of an edit, and the graph after it. -/
def exec {α : Type} (edit : GraphEdit α) (g : Graph) : Except MappingError α × Graph :=
  edit.run g |>.run

/-- Looks up what the graph says. -/
def look {α : Type} (f : Graph → Except MappingError α) : GraphEdit α := do
  match f (← get) with
  | .ok a => return a
  | .error e => throw e

/-- Opens a slot. -/
def newSlot (iri : Option String) : GraphEdit Nat := modifyGet (·.newSlot iri)

/-- Makes a statement. -/
def push (subject : Nat) (predicate : String) (object : GraphObject) : GraphEdit Unit :=
  modify (·.push subject predicate object)

/-- A subject without an IRI. -/
def addResource : GraphEdit Nat := newSlot none

/-- A subject with an IRI. -/
def addNamed (id : ShortIri) : GraphEdit Nat := do
  let iri ← look (·.shortIri id)
  newSlot (some iri)

/-- Gives a subject an IRI. -/
def identify (handle : Nat) (id : ShortIri) : GraphEdit Unit := do
  let slot ← look (·.slot handle)
  let iri ← look (·.shortIri id)
  modify fun g => { g with slots := g.slots.setIfInBounds slot (some iri) }

/-- Makes a statement with an IRI as its object. -/
def addObject (handle : Nat) (predicate : QualifiedName) (object : ShortIri) : GraphEdit Unit := do
  let slot ← look (·.slot handle)
  let predicate ← look (·.nameIri predicate)
  let object ← look (·.shortIri object)
  push slot predicate (.iri object)

/-- Makes a statement with a literal as its object. -/
def addLiteral (handle : Nat) (predicate : QualifiedName) (text : String) (kind : LiteralKind) :
    GraphEdit Unit := do
  let slot ← look (·.slot handle)
  let predicate ← look (·.nameIri predicate)
  let l ← look (·.literal text kind)
  push slot predicate (.literal l)

/-- A blank subject of a class. -/
def addBlank (type : QualifiedName) : GraphEdit Nat := do
  let iri ← look (·.nameIri type)
  let handle ← newSlot none
  push handle Rdf.typeIri (.iri iri)
  return handle

/-- Makes a statement with another subject as its object. -/
def link (handle : Nat) (predicate : QualifiedName) (target : Nat) : GraphEdit Unit := do
  let slot ← look (·.slot handle)
  let target ← look (·.slot target)
  let predicate ← look (·.nameIri predicate)
  push slot predicate (.slot target)

/-- Moves the statements since the last graph was named into a named graph. The format changes if it
has no named graphs. -/
def sealAs (name : String) : GraphEdit Unit := do
  let iri ← look (·.resolve name)
  modify fun g => { g with format := g.format.withNamedGraphs }
  let statements := (← get).current
  modify fun g => { g with current := #[] }
  modify fun g => { g with sealed := g.sealed.push ⟨iri, statements⟩ }

/-- The result of an edit and the graph after it, if the edit succeeds. -/
def commit {α : Type} (edit : GraphEdit α) (g : Graph) : Except MappingError (α × Graph) :=
  match edit.exec g with
  | (.ok a, g') => .ok (a, g')
  | (.error e, _) => .error e

end GraphEdit

/-! ## Edited graphs -/

namespace Graph

/-- A graph with one more subject, which has no IRI. -/
def addResource (g : Graph) : Nat × Graph := g.newSlot none

/-- A graph with one more subject, which has an IRI. -/
def addNamed (g : Graph) (id : ShortIri) : Except MappingError (Nat × Graph) :=
  (GraphEdit.addNamed id).commit g

/-- A graph in which a subject has been given an IRI. -/
def identify (g : Graph) (handle : Nat) (id : ShortIri) : Except MappingError Graph :=
  ((GraphEdit.identify handle id).commit g).map (·.2)

/-- A graph with one more statement, whose object is an IRI. -/
def addObject (g : Graph) (handle : Nat) (predicate : QualifiedName) (object : ShortIri) :
    Except MappingError Graph :=
  ((GraphEdit.addObject handle predicate object).commit g).map (·.2)

/-- A graph with one more statement, whose object is a literal. -/
def addLiteral (g : Graph) (handle : Nat) (predicate : QualifiedName) (text : String)
    (kind : LiteralKind) : Except MappingError Graph :=
  ((GraphEdit.addLiteral handle predicate text kind).commit g).map (·.2)

/-- A graph with one more subject, which is blank and has a class. -/
def addBlank (g : Graph) (type : QualifiedName) : Except MappingError (Nat × Graph) :=
  (GraphEdit.addBlank type).commit g

/-- A graph with one more statement, whose object is another subject. -/
def link (g : Graph) (handle : Nat) (predicate : QualifiedName) (target : Nat) :
    Except MappingError Graph :=
  ((GraphEdit.link handle predicate target).commit g).map (·.2)

/-- A graph whose statements since the last graph was named are in a named graph. -/
def sealAs (g : Graph) (name : String) : Except MappingError Graph :=
  ((GraphEdit.sealAs name).commit g).map (·.2)

end Graph

end Triplify
