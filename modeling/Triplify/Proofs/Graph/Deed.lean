import Triplify.Graph
import Triplify.Proofs.Table
/-!
# Calls on a graph and their deeds

A call on a graph fails, or amounts to a few deeds: it opens a slot, gives a slot a name, makes a
statement or seals a graph. Which deeds those are depends on the names that the graph knows and on
how many slots are open, and never on the statements made so far.

`Graph.call_eq`: a call answers, and changes the graph, as its deeds say. `Graph.enact_emissions`:
what a deed does to the statements.
-/

namespace Triplify

/-- A call on a graph. -/
inductive GraphCall
  | addResource
  | addNamed (id : ShortIri)
  | identify (handle : Nat) (id : ShortIri)
  | addObject (handle : Nat) (predicate : QualifiedName) (object : ShortIri)
  | addLiteral (handle : Nat) (predicate : QualifiedName) (text : String) (kind : LiteralKind)
  | addBlank (type : QualifiedName)
  | link (handle : Nat) (predicate : QualifiedName) (target : Nat)
  | sealAs (name : String)

/-- The handles of the subjects that a call is about. -/
def GraphCall.handles : GraphCall → List Nat
  | addResource => []
  | addNamed _ => []
  | identify handle _ => [handle]
  | addObject handle _ _ => [handle]
  | addLiteral handle _ _ _ => [handle]
  | addBlank _ => []
  | link handle _ target => [handle, target]
  | sealAs _ => []

namespace Graph

/-- Carries out a call. The answer is the handle of a new subject, if the call makes one. -/
def call (g : Graph) : GraphCall → Except MappingError (Option Nat × Graph)
  | .addResource => .ok (some g.addResource.1, g.addResource.2)
  | .addNamed id => (g.addNamed id).map fun r => (some r.1, r.2)
  | .identify handle id => (g.identify handle id).map fun g' => (none, g')
  | .addObject handle predicate object =>
    (g.addObject handle predicate object).map fun g' => (none, g')
  | .addLiteral handle predicate text kind =>
    (g.addLiteral handle predicate text kind).map fun g' => (none, g')
  | .addBlank type => (g.addBlank type).map fun r => (some r.1, r.2)
  | .link handle predicate target => (g.link handle predicate target).map fun g' => (none, g')
  | .sealAs name => (g.sealAs name).map fun g' => (none, g')

/-- The graph after a call. A call that fails leaves it as it is. -/
def after (g : Graph) (c : GraphCall) : Graph :=
  match g.call c with
  | .ok (_, g') => g'
  | .error _ => g

/-- The graph after calls. -/
def afterAll (g : Graph) (calls : List GraphCall) : Graph := calls.foldl after g

/-- The answers to calls, in order. -/
def answers (g : Graph) : List GraphCall → List (Except MappingError (Option Nat))
  | [] => []
  | c :: rest => (g.call c).map (·.1) :: answers (g.after c) rest

/-- The statements in the order in which they were made, each with the name of its graph. -/
def emissions (g : Graph) : List (GraphStatement × Option String) :=
  g.sealed.toList.flatMap (fun d => d.statements.toList.map fun s => (s, some d.name)) ++
    g.current.toList.map fun s => (s, none)

/-- The statements in the order in which they were made. -/
def statements (g : Graph) : List GraphStatement := g.emissions.map (·.1)

end Graph

/-- The edit that carries out a call in place. -/
def GraphCall.edit : GraphCall → GraphEdit (Option Nat)
  | .addResource => do return some (← GraphEdit.addResource)
  | .addNamed id => do return some (← GraphEdit.addNamed id)
  | .identify handle id => do
    GraphEdit.identify handle id
    return none
  | .addObject handle predicate object => do
    GraphEdit.addObject handle predicate object
    return none
  | .addLiteral handle predicate text kind => do
    GraphEdit.addLiteral handle predicate text kind
    return none
  | .addBlank type => do return some (← GraphEdit.addBlank type)
  | .link handle predicate target => do
    GraphEdit.link handle predicate target
    return none
  | .sealAs name => do
    GraphEdit.sealAs name
    return none

/-! ## Deeds -/

/-- Something that a call does. -/
inductive Deed
  | opened (name : Option String)
  | identified (slot : Nat) (iri : String)
  | stated (s : GraphStatement)
  | sealed (name : String)
deriving Repr, DecidableEq

namespace Deed

/-- The name of the graph that is sealed. -/
def seal? : Deed → Option String
  | .sealed name => some name
  | _ => none

/-- The statement that is made. -/
def statement? : Deed → Option GraphStatement
  | .stated s => some s
  | _ => none

/-- A slot is opened. -/
def opens : Deed → Bool
  | .opened _ => true
  | _ => false

/-- Statements with their graphs after one more deed: a statement comes last, and sealing names the
graph of those that have none. -/
def record (d : Deed) (es : List (GraphStatement × Option String)) :
    List (GraphStatement × Option String) :=
  match d with
  | .stated s => es ++ [(s, none)]
  | .sealed name => es.map fun e => (e.1, e.2.or (some name))
  | _ => es

/-- A slot that is named is one of so many. -/
def Fits (slots : Nat) : Deed → Prop
  | .identified slot _ => slot < slots
  | _ => True

end Deed

/-- The slot of a handle, when so many are open. -/
def slotOf (slots handle : Nat) : Except MappingError Nat :=
  if handle < slots then .ok handle else .error (.processing (.unknownHandle handle))

theorem slotOf_of_lt {slots handle : Nat} (h : handle < slots) : slotOf slots handle = .ok handle :=
  if_pos h

theorem lt_of_slotOf {slots handle slot : Nat} (h : slotOf slots handle = .ok slot) :
    slot < slots := by
  unfold slotOf at h
  split at h
  · next hlt =>
    cases h
    exact hlt
  · cases h

/-- The answer to a call and its deeds, when so many slots are open. -/
def Naming.deeds (v : Naming) (slots : Nat) :
    GraphCall → Except MappingError (Option Nat × List Deed)
  | .addResource => .ok (some slots, [.opened none])
  | .addNamed id => do
    let iri ← v.shortIri id
    return (some slots, [.opened (some iri)])
  | .identify handle id => do
    let slot ← slotOf slots handle
    let iri ← v.shortIri id
    return (none, [.identified slot iri])
  | .addObject handle predicate object => do
    let slot ← slotOf slots handle
    let predicate ← v.nameIri predicate
    let object ← v.shortIri object
    return (none, [.stated ⟨slot, predicate, .iri object⟩])
  | .addLiteral handle predicate text kind => do
    let slot ← slotOf slots handle
    let predicate ← v.nameIri predicate
    let l ← v.literal text kind
    return (none, [.stated ⟨slot, predicate, .literal l⟩])
  | .addBlank type => do
    let iri ← v.nameIri type
    return (some slots, [.opened none, .stated ⟨slots, Rdf.typeIri, .iri iri⟩])
  | .link handle predicate target => do
    let slot ← slotOf slots handle
    let target ← slotOf slots target
    let predicate ← v.nameIri predicate
    return (none, [.stated ⟨slot, predicate, .slot target⟩])
  | .sealAs name => do
    let iri ← v.resolve name
    return (none, [.sealed iri])

namespace Graph

/-- What a deed does to a graph. -/
def enact (g : Graph) : Deed → Graph
  | .opened name => { g with slots := g.slots.push name }
  | .identified slot iri => { g with slots := g.slots.setIfInBounds slot (some iri) }
  | .stated s => { g with current := g.current.push s }
  | .sealed name =>
    { g with
      format := g.format.withNamedGraphs
      current := #[]
      sealed := g.sealed.push ⟨name, g.current⟩ }

/-- What deeds do to a graph. -/
def enactAll (g : Graph) (deeds : List Deed) : Graph := deeds.foldl enact g

@[simp] theorem enactAll_nil (g : Graph) : g.enactAll [] = g := rfl

@[simp] theorem enactAll_cons (g : Graph) (d : Deed) (ds : List Deed) :
    g.enactAll (d :: ds) = (g.enact d).enactAll ds := rfl

/-- What an edit comes to that amounts to deeds, or fails before the first of them. -/
def outcome {α : Type} (g : Graph) : Except MappingError (α × List Deed) →
    Except MappingError α × Graph
  | .ok r => (.ok r.1, g.enactAll r.2)
  | .error e => (.error e, g)

end Graph

/-! ## What edits come to -/

namespace GraphEdit

variable {α β : Type} {g g' : Graph}

theorem exec_bind_ok {edit : GraphEdit α} {a : α} (h : edit.exec g = (.ok a, g'))
    (k : α → GraphEdit β) : (edit >>= k).exec g = (k a).exec g' := by
  have hbind : (edit >>= k).exec g = ExceptT.bindCont k (edit.exec g).1 (edit.exec g).2 := rfl
  rw [hbind, h]
  rfl

theorem exec_bind_error {edit : GraphEdit α} {e : MappingError} (h : edit.exec g = (.error e, g'))
    (k : α → GraphEdit β) : (edit >>= k).exec g = (.error e, g') := by
  have hbind : (edit >>= k).exec g = ExceptT.bindCont k (edit.exec g).1 (edit.exec g).2 := rfl
  rw [hbind, h]
  rfl

theorem exec_look (f : Graph → Except MappingError α) (g : Graph) : (look f).exec g = (f g, g) := by
  have hget : (get : GraphEdit Graph).exec g = (.ok g, g) := rfl
  rw [look, exec_bind_ok hget]
  cases f g <;> rfl

/-- Looking something up changes nothing, so that an edit that fails there has done nothing yet. -/
theorem exec_look_bind (f : Graph → Except MappingError α) {k : α → GraphEdit β}
    {d : α → Except MappingError (β × List Deed)} (h : ∀ a, (k a).exec g = g.outcome (d a)) :
    (look f >>= k).exec g = g.outcome (f g >>= d) := by
  have hlook := exec_look f g
  cases hf : f g with
  | ok a =>
    rw [hf] at hlook
    rw [exec_bind_ok hlook]
    exact h a
  | error e =>
    rw [hf] at hlook
    rw [exec_bind_error hlook]
    rfl

theorem exec_newSlot (iri : Option String) (g : Graph) :
    (newSlot iri).exec g = (.ok g.slots.size, g.enact (.opened iri)) := rfl

/-- An edit does all of its deeds, or none of them. They depend on the names and on the number of
slots only. -/
theorem exec_edit (c : GraphCall) (g : Graph) :
    c.edit.exec g = g.outcome (g.toNaming.deeds g.slots.size c) := by
  cases c with
  | addResource => exact exec_bind_ok (exec_newSlot none g) _
  | addNamed id =>
    simp only [GraphCall.edit, addNamed, bind_assoc]
    exact exec_look_bind (·.shortIri id) fun iri => exec_bind_ok (exec_newSlot (some iri) g) _
  | identify handle id =>
    simp only [GraphCall.edit, identify, bind_assoc]
    refine exec_look_bind (·.slot handle) fun slot => ?_
    exact exec_look_bind (·.shortIri id) fun iri => rfl
  | addObject handle predicate object =>
    simp only [GraphCall.edit, addObject, bind_assoc]
    refine exec_look_bind (·.slot handle) fun slot => ?_
    refine exec_look_bind (·.nameIri predicate) fun predicate => ?_
    exact exec_look_bind (·.shortIri object) fun object => rfl
  | addLiteral handle predicate text kind =>
    simp only [GraphCall.edit, addLiteral, bind_assoc]
    refine exec_look_bind (·.slot handle) fun slot => ?_
    refine exec_look_bind (·.nameIri predicate) fun predicate => ?_
    exact exec_look_bind (·.literal text kind) fun l => rfl
  | addBlank type =>
    simp only [GraphCall.edit, addBlank, bind_assoc]
    refine exec_look_bind (·.nameIri type) fun iri => ?_
    exact exec_bind_ok (exec_newSlot none g) _
  | link handle predicate target =>
    simp only [GraphCall.edit, link, bind_assoc]
    refine exec_look_bind (·.slot handle) fun slot => ?_
    refine exec_look_bind (·.slot target) fun target => ?_
    exact exec_look_bind (·.nameIri predicate) fun predicate => rfl
  | sealAs name =>
    simp only [GraphCall.edit, sealAs, bind_assoc]
    exact exec_look_bind (·.resolve name) fun iri => rfl

/-- A result that is put into words is committed as it is. -/
theorem commit_bind (edit : GraphEdit α) (f : α → β) (g : Graph) :
    (do return f (← edit) : GraphEdit β).commit g = (edit.commit g).map fun r => (f r.1, r.2) := by
  rcases h : edit.exec g with ⟨e | a, g'⟩
  · rw [commit, exec_bind_error h, commit, h]
    rfl
  · rw [commit, exec_bind_ok h, commit, h]
    rfl

end GraphEdit

namespace Graph

/-- A call is the edit in place, committed. -/
theorem call_eq_commit (g : Graph) (c : GraphCall) : g.call c = c.edit.commit g := by
  have hdone : ∀ step : GraphEdit Unit,
      ((step.commit g).map (·.2)).map (fun g' => (none, g')) =
        (do step; return none : GraphEdit (Option Nat)).commit g := by
    intro step
    rw [GraphEdit.commit_bind step (fun _ => none)]
    cases step.commit g <;> rfl
  cases c with
  | addResource => rfl
  | addNamed id => exact (GraphEdit.commit_bind _ some g).symm
  | addBlank type => exact (GraphEdit.commit_bind _ some g).symm
  | identify handle id => exact hdone _
  | addObject handle predicate object => exact hdone _
  | addLiteral handle predicate text kind => exact hdone _
  | link handle predicate target => exact hdone _
  | sealAs name => exact hdone _

/-- A call answers and changes the graph as its deeds say. They depend on the names and on the
number of slots only. -/
theorem call_eq (g : Graph) (c : GraphCall) :
    g.call c = (g.toNaming.deeds g.slots.size c).map fun r => (r.1, g.enactAll r.2) := by
  rw [call_eq_commit, GraphEdit.commit, GraphEdit.exec_edit]
  cases g.toNaming.deeds g.slots.size c <;> rfl

end Graph

/-! ## What deeds do to a graph -/

namespace Graph

@[simp] theorem enact_toNaming (g : Graph) (d : Deed) : (g.enact d).toNaming = g.toNaming := by
  cases d <;> rfl

theorem enact_slots_size (g : Graph) (d : Deed) :
    (g.enact d).slots.size = g.slots.size + if d.opens then 1 else 0 := by
  cases d <;> simp [enact, Deed.opens]

theorem enactAll_slots_size (g : Graph) (ds : List Deed) :
    (g.enactAll ds).slots.size = g.slots.size + ds.countP Deed.opens := by
  induction ds generalizing g with
  | nil => rfl
  | cons d ds ih => rw [enactAll_cons, ih, enact_slots_size, List.countP_cons]; omega

theorem slots_size_le_enactAll (g : Graph) (ds : List Deed) :
    g.slots.size ≤ (g.enactAll ds).slots.size := by
  rw [enactAll_slots_size]
  exact Nat.le_add_right _ _

theorem enact_emissions (g : Graph) (d : Deed) : (g.enact d).emissions = d.record g.emissions := by
  cases d with
  | opened name => rfl
  | identified slot iri => rfl
  | stated s => simp [enact, emissions, Deed.record]
  | sealed name =>
    have hkeep : ∀ l : List SealedGraph,
        (l.flatMap fun d => d.statements.toList.map fun s => (s, some d.name)).map
            (fun e => (e.1, e.2.or (some name))) =
          l.flatMap fun d => d.statements.toList.map fun s => (s, some d.name) := by
      intro l
      rw [List.map_flatMap]
      simp [Function.comp_def]
    have hnew : (g.enact (.sealed name)).emissions =
        (g.sealed.toList.flatMap fun d => d.statements.toList.map fun s => (s, some d.name)) ++
          g.current.toList.map fun s => (s, some name) := by
      simp [enact, emissions]
    rw [hnew, Deed.record, emissions, List.map_append, hkeep, List.map_map]
    rfl

theorem enact_statements (g : Graph) (d : Deed) :
    (g.enact d).statements = g.statements ++ d.statement?.toList := by
  rw [statements, enact_emissions]
  cases d <;> simp [Deed.record, Deed.statement?, statements, Function.comp_def]

theorem enactAll_statements (g : Graph) (ds : List Deed) :
    (g.enactAll ds).statements = g.statements ++ ds.filterMap Deed.statement? := by
  induction ds generalizing g with
  | nil => simp
  | cons d ds ih =>
    rw [enactAll_cons, ih, enact_statements]
    cases h : d.statement? <;> simp [h]

/-- The quads are the statements in order, each with its terms and its graph. -/
theorem quads_eq (g : Graph) : g.quads = g.emissions.map fun e => g.quad e.2 e.1 := by
  simp [quads, emissions, List.map_flatMap, Function.comp_def]

theorem triples_eq (g : Graph) : g.triples = g.quads.map (·.toTriple) := by
  simp [triples, quads, quad, List.map_flatMap, Function.comp_def]

theorem size_eq (g : Graph) : g.size = g.quads.length := by
  have hsize : g.size = g.current.size + (g.sealed.toList.map (·.statements.size)).sum := rfl
  rw [hsize]
  simp [quads, List.length_flatMap, Nat.add_comm]

end Graph

end Triplify
