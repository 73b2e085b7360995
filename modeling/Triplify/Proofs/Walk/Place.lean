import Triplify.Mapping.Run
/-!
# Places in a configuration

Two nodes of a configuration can be alike, down to the text they were read from. What tells them
apart is their place: the indices that lead to a node from the root.
-/

namespace Triplify.Mapping

/-- The indices that lead from the root of a configuration to a node. -/
abbrev Place := List Nat

/-- The node at a place. -/
def Node.at? (n : Node) : Place → Option Node
  | [] => some n
  | i :: rest => n.children[i]?.bind fun c => c.at? rest

/-- A node and its place. -/
structure Located where
  place : Place
  node : Node

namespace Located

/-- The child nodes with their places. -/
def children (l : Located) : List Located :=
  l.node.children.mapIdx fun i c => ⟨l.place ++ [i], c⟩

/-- The child nodes with a tag. -/
def childrenWith (l : Located) (t : Tag) : List Located := l.children.filter (·.node.tag = t)

/-- The node stands at its place under a root. -/
def StandsIn (root : Node) (l : Located) : Prop := root.at? l.place = some l.node

end Located

/-- The root of the configuration. -/
def Setting.root (s : Setting) : Located := ⟨[], s.config.root⟩

/-- The first named mapping of a name. -/
def Setting.namedMapping? (s : Setting) (name : String) : Option Located :=
  (s.root.childrenWith .namedMapping).find? fun l => l.node.get? "name" == some name

/-! ## Nodes at places -/

theorem Node.at?_append (n : Node) (p q : Place) : n.at? (p ++ q) = (n.at? p).bind (·.at? q) := by
  induction p generalizing n with
  | nil => rfl
  | cons i p ih =>
    simp only [List.cons_append, Node.at?, Option.bind_assoc]
    cases n.children[i]? with
    | none => rfl
    | some c => exact ih c

namespace Located

theorem children_map_node (l : Located) : l.children.map (·.node) = l.node.children := by
  refine List.ext_getElem? fun i => ?_
  cases h : l.node.children[i]? <;> simp [children, h]

theorem mem_children {l c : Located} :
    c ∈ l.children ↔ ∃ i, l.node.children[i]? = some c.node ∧ c.place = l.place ++ [i] := by
  rw [children, List.mem_mapIdx]
  constructor
  · rintro ⟨i, hi, rfl⟩
    exact ⟨i, List.getElem?_eq_getElem hi, rfl⟩
  · rintro ⟨i, hi, hp⟩
    obtain ⟨h, hc⟩ := List.getElem?_eq_some_iff.1 hi
    exact ⟨i, h, by rw [hc, ← hp]⟩

theorem standsIn_root (s : Setting) : s.root.StandsIn s.config.root := rfl

theorem StandsIn.child {root : Node} {l c : Located} (h : l.StandsIn root) (hc : c ∈ l.children) :
    c.StandsIn root := by
  obtain ⟨i, hi, hp⟩ := mem_children.1 hc
  have hl : root.at? l.place = some l.node := h
  rw [StandsIn, hp, Node.at?_append, hl]
  simp [Node.at?, hi]

theorem StandsIn.getElem?_children {root : Node} {l : Located} (h : l.StandsIn root) (i : Nat) :
    l.children[i]? = (root.at? (l.place ++ [i])).map fun c => ⟨l.place ++ [i], c⟩ := by
  have hl : root.at? l.place = some l.node := h
  rw [Node.at?_append, hl, children, List.getElem?_mapIdx]
  simp [Node.at?]

theorem StandsIn.childWith {root : Node} {l c : Located} {t : Tag} (h : l.StandsIn root)
    (hc : c ∈ l.childrenWith t) : c.StandsIn root :=
  h.child (List.mem_filter.1 hc).1

end Located

theorem Setting.namedMapping?_standsIn {s : Setting} {name : String} {l : Located}
    (h : s.namedMapping? name = some l) : l.StandsIn s.config.root :=
  (Located.standsIn_root s).childWith (List.mem_of_find?_eq_some h)

end Triplify.Mapping
