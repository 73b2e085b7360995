import Triplify.Proofs.Walk.Walk
/-!
# Corresponding configurations

A run on one configuration is compared with a run on another whose nodes correspond. `Image` says
how: the image of a node has its head, and the images of its children, some of which may be left out.

What a node does on its own depends on its head only, so it is the same for the image. The exceptions
are a new subject and a named mapping, which look at children: `newSubject_eq`, `namedMapping?_eq`.
-/

namespace Triplify.Mapping

/-- Two nodes that may differ in their children only. -/
structure SameHead (n' n : Node) : Prop where
  tag : n'.tag = n.tag
  name : n'.name = n.name
  attributes : n'.attributes = n.attributes
  source : n'.source = n.source

namespace SameHead

theorem refl (n : Node) : SameHead n n := ⟨rfl, rfl, rfl, rfl⟩

variable {n' n : Node} (h : SameHead n' n)
include h

theorem get? (key : String) : n'.get? key = n.get? key := by rw [Node.get?, Node.get?, h.attributes]

theorem has (key : String) : n'.has key = n.has key := by rw [Node.has, Node.has, h.get?]

theorem require (key : String) : n'.require key = n.require key := by
  rw [Node.require, Node.require, h.get?, h.source]

theorem flag (key : String) (fallback : Bool) : flag n' key fallback = flag n key fallback := by
  rw [Mapping.flag, Mapping.flag, h.get?, h.name]

theorem report (e : MappingError) : n'.report e = n.report e := by
  rw [Node.report, Node.report, h.tag, h.source]

theorem handle (c : Context) : c.handle n' = c.handle n := by
  rw [Context.handle, Context.handle, h.name]

theorem subject : Run.subject n' = Run.subject n := by simp only [Run.subject, h.handle]

theorem newBlank_eq : newBlank n' = newBlank n := by
  simp only [newBlank, h.require, h.subject]

theorem runCounter_eq : runCounter n' = runCounter n := by
  simp only [runCounter, initialValue, h.require, h.flag, h.get?, h.name]

theorem runUniqueIdentifier_eq : runUniqueIdentifier n' = runUniqueIdentifier n := by
  simp only [runUniqueIdentifier, h.require, h.flag]

theorem runError_eq : runError n' = runError n := by
  simp only [runError, h.require, h.flag, h.source]

end SameHead

/-- Nodes that are left out make no difference to an `else`: where one of them stands right after an
`if`, the next node that is kept is no `else`. The flag tells whether the last kept node is an `if`. -/
def Apart (kept : Located → Bool) : Bool → List Located → Prop
  | _, [] => True
  | afterIf, l :: rest =>
    if kept l then Apart kept (decide (l.node.tag = .condition)) rest
    else (afterIf → ∀ next ∈ (rest.filter kept).head?, next.node.tag ≠ .otherwise) ∧
      Apart kept afterIf rest

theorem apart_of_kept {kept : Located → Bool} {cs : List Located} (h : ∀ c ∈ cs, kept c)
    (afterIf : Bool) : Apart kept afterIf cs := by
  induction cs generalizing afterIf with
  | nil => trivial
  | cons c rest ih =>
    rw [Apart, if_pos (h c (.head _))]
    exact ih (fun c hc => h c (.tail _ hc)) _

/-- How the nodes of a setting correspond to those of another. -/
structure Image (s s' : Setting) where
  node : Located → Node
  kept : Located → Bool
  namespaces : s'.config.namespaces = s.config.namespaces
  transforms : s'.transforms = s.transforms
  paths : s'.paths = s.paths
  root : node s.root = s'.config.root
  root_kept : kept s.root
  head : ∀ l : Located, SameHead (node l) l.node
  children : ∀ l : Located, (node l).children = (l.children.filter kept).map node
  left_out : ∀ l : Located, l.StandsIn s.config.root → kept l = false →
    l.node.tag = .triple ∨ l.node.tag = .type
  apart : ∀ l : Located, l.StandsIn s.config.root → Apart kept false l.children

namespace Image

variable {s s' : Setting} (i : Image s s')

theorem kept_of_tag {l : Located} (hl : l.StandsIn s.config.root) (h₁ : l.node.tag ≠ .triple)
    (h₂ : l.node.tag ≠ .type) : i.kept l := by
  cases hk : i.kept l with
  | true => rfl
  | false => exact ((i.left_out l hl hk).elim h₁ h₂).elim

theorem kept_of_childWith {l c : Located} (hl : l.StandsIn s.config.root) {t : Tag}
    (h₁ : t ≠ .triple) (h₂ : t ≠ .type) (hc : c ∈ l.childrenWith t) : i.kept c := by
  have ht : c.node.tag = t := by simpa using (List.mem_filter.1 hc).2
  exact i.kept_of_tag (hl.childWith hc) (ht ▸ h₁) (ht ▸ h₂)

/-- The children with a tag correspond, unless the tag is that of a node that can be left out. -/
theorem childrenWith {l : Located} (hl : l.StandsIn s.config.root) {t : Tag} (h₁ : t ≠ .triple)
    (h₂ : t ≠ .type) : (i.node l).childrenWith t = (l.childrenWith t).map i.node := by
  rw [Node.childrenWith, i.children, Located.childrenWith, List.filter_map, List.filter_filter]
  congr 1
  refine List.filter_congr fun c hc => ?_
  by_cases ht : c.node.tag = t
  · have hkept := i.kept_of_tag (hl.child hc) (ht ▸ h₁) (ht ▸ h₂)
    simp [(i.head c).tag, ht, hkept]
  · simp [(i.head c).tag, ht]

theorem namedMapping?_eq (name : String) :
    s'.config.namedMapping? name = (s.namedMapping? name).map i.node := by
  have hroot := i.childrenWith (Located.standsIn_root s) (t := .namedMapping) nofun nofun
  have hname : (fun c => (i.node c).get? "name" == some name) =
      fun c : Located => c.node.get? "name" == some name :=
    funext fun c => by rw [(i.head c).get?]
  rw [Config.namedMapping?, ← i.root, hroot, List.find?_map, Setting.namedMapping?]
  exact congrArg (fun p => ((s.root.childrenWith .namedMapping).find? p).map i.node) hname

/-! ## What corresponding nodes do on their own -/

include i in
theorem addObjects_eq (handle : Nat) (predicate : QualifiedName) (values : List String) :
    addObjects s' handle predicate values = addObjects s handle predicate values := by
  induction values with
  | nil => rfl
  | cons value rest ih => simp only [addObjects, ih, i.namespaces]

include i in
theorem addClasses_eq (handle : Nat) (values : List String) :
    addClasses s' handle values = addClasses s handle values := by
  induction values with
  | nil => rfl
  | cons value rest ih => simp only [addClasses, ih, i.namespaces]

section
variable {n' n : Node} (h : SameHead n' n) (data : XPath.NodeRef)
include i h

theorem modifier_eq : modifier s' n' = modifier s n := by
  simp only [modifier, h.get?, i.transforms]

theorem valuesOf_eq (key : String) (t : Option Transform) (b : Bounds) :
    Run.valuesOf s' data n' key t b = Run.valuesOf s data n key t b := by
  simp only [Run.valuesOf, values, h.get?, h.source, i.paths]

theorem selected_eq : selected s' n' data = selected s n data := by
  simp only [selected, h.require, i.paths]

theorem conditionHolds_eq : conditionHolds s' n' data = conditionHolds s n data := by
  simp only [conditionHolds, h.require, i.paths]

theorem switchCandidates_eq : switchCandidates s' n' data = switchCandidates s n data := by
  simp only [switchCandidates, h.get?, i.paths]

theorem branchHits_eq (candidates : List String) :
    branchHits s' candidates n' data = branchHits s candidates n data := by
  simp only [branchHits, h.get?, h.name, h.source, i.paths]

theorem identifierValue_eq : identifierValue s' n' data = identifierValue s n data := by
  simp only [identifierValue, i.modifier_eq h, i.valuesOf_eq h, i.namespaces]

theorem assignGraph_eq : assignGraph s' n' data = assignGraph s n data := by
  simp only [assignGraph, i.valuesOf_eq h]

theorem runTriple_eq : runTriple s' n' data = runTriple s n data := by
  simp only [runTriple, literalKind, h.require, h.subject, h.has, h.get?, i.modifier_eq h,
    i.valuesOf_eq h, i.addObjects_eq]

theorem runType_eq : runType s' n' data = runType s n data := by
  simp only [runType, h.subject, i.valuesOf_eq h, i.addClasses_eq]

theorem runIdentifier_eq : runIdentifier s' n' data = runIdentifier s n data := by
  simp only [runIdentifier, h.subject, i.identifierValue_eq h]

end

/-- A new subject looks at the identifiers among the children, which are all kept. -/
theorem newSubject_eq {l : Located} (hl : l.StandsIn s.config.root) (data : XPath.NodeRef) :
    newSubject s' (i.node l) data = newSubject s l.node data := by
  have hids : (i.node l).childrenWith .identifier =
      (l.childrenWith .identifier).map i.node := i.childrenWith hl nofun nofun
  have hplain : l.node.childrenWith .identifier = (l.childrenWith .identifier).map (·.node) := by
    rw [Node.childrenWith, ← l.children_map_node, List.filter_map]
    rfl
  rw [newSubject, newSubject, hids, hplain]
  match l.childrenWith .identifier with
  | [] => rfl
  | [id] => simp only [List.map_cons, List.map_nil, i.identifierValue_eq (i.head id)]
  | _ :: _ :: _ => rfl

end Image

end Triplify.Mapping
