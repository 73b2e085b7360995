import Mathlib.Data.List.Forall2
import Triplify.Proofs.Walk.Image
import Triplify.Proofs.XPath.Reading
/-!
# A configuration with a use written out

`Setting.inlined` replaces one use of a named mapping by an `if` that always holds and has the
children of the named mapping. `Inlines` relates the nodes before to the nodes after. A named mapping
can use itself, so that what is written out can hold the use that is replaced: in the relation any
uses may be written out, at any depth, and `Inlines.replaceAt` is the case of one.
-/

namespace Triplify.Mapping

/-! ## A condition that always holds -/

/-- An `if` that always holds. -/
def Node.always (children : List Node) (source : String) : Node :=
  .mk .condition "if" [("match", "true()")] children source

theorem exec_conditionHolds_always (s : Setting) (children : List Node) (source : String)
    (data : XPath.NodeRef) (st : RunState) :
    (conditionHolds s (.always children source) data).exec st = (.ok true, st) :=
  exec_conditionHolds (n := .always children source) rfl
    (prepareMatch_of_notMem st.registries (by decide) rfl)
    (s.paths.evaluate_true data)

/-! ## Configurations with another root -/

/-- A node with another in the place of one below it. -/
def Node.replaceAt (n new : Node) : Place → Node
  | [] => new
  | i :: rest =>
    .mk n.tag n.name n.attributes (n.children.modify i fun c => c.replaceAt new rest) n.source

/-- A setting whose configuration has another root. -/
def Setting.withRoot (s : Setting) (root : Node) : Setting :=
  { s with config := { s.config with root := root } }

/-- A setting where an `if` that always holds, with the children of a node, stands at a place. -/
def Setting.inlined (s : Setting) (p : Place) (target : Node) (source : String) : Setting :=
  s.withRoot (s.config.root.replaceAt (.always target.children source) p)

/-- Nodes, and the nodes that come of them when uses of named mappings are written out. None of those
uses stands right before an `else`. -/
inductive Inlines (c : Config) : List Node → List Node → Prop
  | nil : Inlines c [] []
  | kept {n n' : Node} {rest rest' : List Node} : SameHead n' n →
      Inlines c n.children n'.children → Inlines c rest rest' →
      Inlines c (n :: rest) (n' :: rest')
  | inlined {u target : Node} {name : String} {children rest rest' : List Node} (source : String) :
      u.tag = .useNamedMapping → u.get? "name" = some name → c.namedMapping? name = some target →
      Inlines c target.children children → (∀ next ∈ rest.head?, next.tag ≠ .otherwise) →
      Inlines c rest rest' → Inlines c (u :: rest) (.always children source :: rest')

/-- A node has the head of another, and its children with uses written out. -/
structure Corresponds (c : Config) (n n' : Node) : Prop where
  head : SameHead n' n
  children : Inlines c n.children n'.children

namespace Inlines

variable {c : Config}

theorem refl (c : Config) : ∀ ns : List Node, Inlines c ns ns
  | [] => .nil
  | .mk tag name attributes children source :: rest =>
    .kept (.refl (.mk tag name attributes children source)) (refl c children) (refl c rest)

/-! ## One use written out -/

theorem replace_here {u target : Node} {name source : String} {k : Nat} {ns : List Node}
    (hu : ns[k]? = some u) (htag : u.tag = .useNamedMapping) (hname : u.get? "name" = some name)
    (htarget : c.namedMapping? name = some target)
    (hfree : ∀ next ∈ ns[k + 1]?, next.tag ≠ .otherwise) :
    Inlines c ns (ns.modify k fun _ => .always target.children source) := by
  induction ns generalizing k with
  | nil => cases hu
  | cons n rest ih =>
    cases k with
    | zero =>
      cases hu
      rw [List.getElem?_cons_succ, ← List.head?_eq_getElem?] at hfree
      exact .inlined source htag hname htarget (refl c _) hfree (refl c rest)
    | succ k =>
      rw [List.getElem?_cons_succ] at hu hfree
      exact .kept (.refl n) (refl c _) (ih hu hfree)

theorem modify {f : Node → Node} {i : Nat} {ns : List Node}
    (h : ∀ n ∈ ns[i]?, Corresponds c n (f n)) : Inlines c ns (ns.modify i f) := by
  induction ns generalizing i with
  | nil =>
    rw [List.modify_nil]
    exact .nil
  | cons n rest ih =>
    cases i with
    | zero => exact .kept (h n rfl).head (h n rfl).children (refl c rest)
    | succ i => exact .kept (.refl n) (refl c _) (ih h)

/-- A use that no `else` follows is written out at its place. -/
theorem replaceAt {n u target : Node} {name : String} (source : String) {p : Place} {k : Nat}
    (hu : n.at? (p ++ [k]) = some u) (htag : u.tag = .useNamedMapping)
    (hname : u.get? "name" = some name) (htarget : c.namedMapping? name = some target)
    (hfree : ∀ next ∈ n.at? (p ++ [k + 1]), next.tag ≠ .otherwise) :
    Corresponds c n (n.replaceAt (.always target.children source) (p ++ [k])) := by
  induction p generalizing n with
  | nil =>
    have hat : ∀ i, n.at? ([] ++ [i]) = n.children[i]? := by
      intro i
      cases h : n.children[i]? <;> simp [Node.at?, h]
    rw [hat] at hu hfree
    exact ⟨⟨rfl, rfl, rfl, rfl⟩, replace_here hu htag hname htarget hfree⟩
  | cons i p ih =>
    refine ⟨⟨rfl, rfl, rfl, rfl⟩, modify fun child hchild => ih ?_ ?_⟩
    · rw [List.cons_append, Node.at?, Option.mem_def.1 hchild] at hu
      exact hu
    · rw [List.cons_append, Node.at?, Option.mem_def.1 hchild] at hfree
      exact hfree

/-! ## Children with a tag -/

/-- The nodes with a tag correspond, unless it is the tag of what is replaced or put in. -/
theorem filter {t : Tag} (huse : t ≠ .useNamedMapping) (hcondition : t ≠ .condition)
    {ns ns' : List Node} (h : Inlines c ns ns') :
    List.Forall₂ (Corresponds c) (ns.filter (·.tag = t)) (ns'.filter (·.tag = t)) := by
  induction h with
  | nil => exact .nil
  | @kept n n' _ _ hhead hchildren _ _ ih =>
    by_cases ht : n.tag = t
    · have ht' : n'.tag = t := hhead.tag.trans ht
      rw [List.filter_cons_of_pos (by simpa using ht), List.filter_cons_of_pos (by simpa using ht')]
      exact .cons ⟨hhead, hchildren⟩ ih
    · have ht' : n'.tag ≠ t := hhead.tag ▸ ht
      rw [List.filter_cons_of_neg (by simpa using ht), List.filter_cons_of_neg (by simpa using ht')]
      exact ih
  | @inlined u _ _ children _ _ source htag _ _ _ _ _ _ ih =>
    have ht : u.tag ≠ t := htag ▸ huse.symm
    have ht' : (Node.always children source).tag ≠ t := hcondition.symm
    rw [List.filter_cons_of_neg (by simpa using ht), List.filter_cons_of_neg (by simpa using ht')]
    exact ih

end Inlines

/-- Of corresponding nodes the first of a name correspond. -/
theorem Corresponds.find? {c : Config} {ns ns' : List Node} (h : List.Forall₂ (Corresponds c) ns ns')
    (key : String) (value : Option String) :
    Option.Rel (Corresponds c) (ns.find? (·.get? key == value)) (ns'.find? (·.get? key == value)) := by
  induction h with
  | nil => exact .none
  | @cons n n' _ _ hn _ ih =>
    rw [List.find?_cons, List.find?_cons, hn.head.get?]
    cases n.get? key == value with
    | true => exact .some hn
    | false => exact ih

/-- The named mappings of corresponding roots correspond. -/
theorem Corresponds.namedMapping? {s : Setting} {root : Node}
    (h : Corresponds s.config s.config.root root) (name : String) :
    Option.Rel (Corresponds s.config) (s.config.namedMapping? name)
      ((s.withRoot root).config.namedMapping? name) :=
  Corresponds.find? (h.children.filter (by decide) (by decide)) "name" (some name)

end Triplify.Mapping
