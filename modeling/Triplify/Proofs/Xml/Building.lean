import Triplify.Xml.Document
/-!
# Building documents

A document is built piece by piece. `Makes` is what pieces of markup do to a builder: they add leaves, open
elements for start tags, and close them. Nodes only come behind those that are there, so what is inside of
a node is settled once it is closed: `Continues` says so of the document in the end.
-/

namespace Triplify.Xml

/-- A start tag as it is written. -/
structure StartTag where
  name : TagName
  attributes : List RawAttribute

/-- The start tag that a piece of markup is, if it is one. -/
def Markup.startTag? : Markup → Option StartTag
  | .start name attributes _ => some ⟨name, attributes⟩
  | _ => none

namespace Document

/-- The labels that a start tag declares. -/
def declaredBy (tag : StartTag) : List (String × String) := (declared? tag.attributes).getD []

/-- The markup that a text is made of, if it can be taken apart. -/
def markup? (text : String) : Option (List Markup) :=
  let content := (declaration? text.toList).getD text.toList
  (Markup.all? dialect content.length content).map (List.map Prod.fst)

/-- The start tags in a text, in order. -/
def startTags (text : String) : List StartTag :=
  ((markup? text).getD []).filterMap Markup.startTag?

theorem ofText?_eq (text : String) : ofText? text =
    (markup? text).bind fun pieces => (pieces.foldlM Builder.add? {}).bind Builder.finish? := by
  simp only [ofText?, markup?]
  cases Markup.all? dialect ((declaration? text.toList).getD text.toList).length
      ((declaration? text.toList).getD text.toList) with
  | none => rfl
  | some pieces =>
    rw [Option.map_some, Option.bind_some, List.foldlM_map]

/-! ## What building is made of -/

namespace Builder

/-- The labels in force where the builder is. -/
def scope (b : Builder) : List (String × String) :=
  (b.stack.head?.map Open.scope).getD [("xml", xmlNamespace)]

/-- A start tag opens an element: it comes next, and its attributes after it. -/
structure Opens (b : Builder) (tag : StartTag) (next : Builder) (element : Node)
    (attrs : List Node) : Prop where
  distinct : areDistinct tag.attributes
  declared : declared? tag.attributes = some (declaredBy tag)
  name : ∃ iri, element.kind = .element ⟨iri, tag.name.localName, tag.name.label⟩
  scope : element.scope = extendScope b.scope (declaredBy tag)
  attributes : ∀ n ∈ attrs, ∃ a, n.kind = .attribute a
  nodes : next.nodes = b.nodes ++ (element :: attrs).toArray
  stack : ∃ byDefault, next.stack = ⟨tag.name, b.nodes.size, element.scope, byDefault, []⟩ ::
    (b.addChild b.nodes.size).stack
  top : next.top = (b.addChild b.nodes.size).top

theorem resolve?_name {scope : List (String × String)} {name : TagName} {resolved : Name}
    (h : resolve? scope name = some resolved) :
    resolved = ⟨resolved.namespaceIri, name.localName, name.label⟩ := by
  unfold resolve? at h
  split at h
  · next hlabel =>
    cases h
    rw [hlabel]
  · next label hlabel =>
    obtain ⟨iri, -, rfl⟩ := Option.map_eq_some_iff.1 h
    rw [hlabel]

theorem opens_of_start? {b next : Builder} {tag : StartTag}
    (h : b.start? tag.name tag.attributes = some next) :
    ∃ element attrs, Opens b tag next element attrs := by
  unfold start? at h
  obtain ⟨_, hguard, h⟩ := Option.bind_eq_some_iff.1 h
  obtain ⟨own, hown, h⟩ := Option.bind_eq_some_iff.1 h
  obtain ⟨resolved, hname, h⟩ := Option.bind_eq_some_iff.1 h
  obtain ⟨attrs, -, h⟩ := Option.bind_eq_some_iff.1 h
  have hdistinct : areDistinct tag.attributes := by
    cases hd : areDistinct tag.attributes with
    | true => rfl
    | false =>
      rw [hd] at hguard
      cases hguard
  have hdeclared : declaredBy tag = own := by rw [declaredBy, hown, Option.getD_some]
  have hresolved := resolve?_name hname
  cases h
  have hnodes : ∀ (element : Node) (attrs : List Node),
      b.nodes.push element ++ attrs.toArray = b.nodes ++ (element :: attrs).toArray := by
    intro element attrs
    apply Array.toList_inj.1
    simp
  refine ⟨_, _, {
    distinct := hdistinct
    declared := by rw [hdeclared, hown]
    name := ?_
    scope := by rw [hdeclared]; rfl
    attributes := ?_
    nodes := hnodes _ _
    stack := ⟨_, rfl⟩
    top := rfl }⟩
  · rw [hresolved]
    split
    · exact ⟨_, rfl⟩
    · exact ⟨_, rfl⟩
  · intro n hn
    obtain ⟨x, -, rfl⟩ := List.mem_map.1 hn
    exact ⟨_, rfl⟩

/-- What pieces of markup do to a builder one after the other, with the start tags among them. -/
inductive Makes : Builder → List StartTag → Builder → Prop
  | done (b : Builder) : Makes b [] b
  | leaf {b b' : Builder} {tags : List StartTag} (kind : NodeKind) (value : String) :
      (∀ name, kind ≠ .element name) → Makes (b.leaf kind value) tags b' → Makes b tags b'
  | opens {b next b' : Builder} {tag : StartTag} {tags : List StartTag} :
      b.start? tag.name tag.attributes = some next → Makes next tags b' → Makes b (tag :: tags) b'
  | closes {b next b' : Builder} {tags : List StartTag} :
      b.close? = some next → Makes next tags b' → Makes b tags b'

theorem makes_add {b next b' : Builder} {m : Markup} {tags : List StartTag}
    (h : b.add? m = some next) (h' : Makes next tags b') :
    Makes b (m.startTag?.toList ++ tags) b' := by
  have hopens : ∀ {name : TagName} {attributes : List RawAttribute} {opened : Builder},
      b.start? name attributes = some opened → Makes opened tags b' →
      Makes b (⟨name, attributes⟩ :: tags) b' := fun hopened hmakes => .opens hopened hmakes
  -- Text, references and sections make text nodes, if they make anything.
  have htext : ∀ {value : String}, b.leaf .text value = next → Makes b tags b' := by
    rintro value rfl
    exact .leaf .text value (fun name => by simp) h'
  cases m with
  | start name attributes isEmpty =>
    simp only [add?] at h
    split at h
    · cases h
    · split at h
      · obtain ⟨opened, hopened, hclosed⟩ := Option.bind_eq_some_iff.1 h
        exact hopens hopened (.closes hclosed h')
      · exact hopens h h'
  | close name =>
    simp only [add?] at h
    split at h
    · exact .closes h h'
    · cases h
  | text s =>
    simp only [add?] at h
    split at h
    · exact htext (Option.some.inj h)
    · split at h
      · cases h
        exact h'
      · cases h
  | reference c =>
    simp only [add?] at h
    split at h
    · cases h
    · exact htext (Option.some.inj h)
  | «section» s =>
    simp only [add?] at h
    split at h
    · cases h
    · exact htext (Option.some.inj h)
  | comment s =>
    cases h
    exact .leaf .comment _ (fun name => by simp) h'
  | instruction target content =>
    simp only [add?] at h
    split at h
    · cases h
    · obtain ⟨value, -, rfl⟩ := Option.map_eq_some_iff.1 h
      exact .leaf (.instruction target) value (fun name => by simp) h'

theorem makes_of_foldlM {pieces : List Markup} {b b' : Builder}
    (h : pieces.foldlM add? b = some b') : Makes b (pieces.filterMap Markup.startTag?) b' := by
  induction pieces generalizing b with
  | nil =>
    cases h
    exact .done _
  | cons m rest ih =>
    rw [List.foldlM_cons] at h
    obtain ⟨next, hnext, hrest⟩ := Option.bind_eq_some_iff.1 h
    have hmakes := makes_add hnext (ih hrest)
    rw [List.filterMap_cons]
    cases hm : m.startTag? with
    | none => rwa [hm] at hmakes
    | some tag => rwa [hm] at hmakes

theorem addChild_places (b : Builder) (place : Nat) :
    (b.addChild place).stack.map Open.place = b.stack.map Open.place := by
  unfold addChild
  split
  · next hstack => rw [hstack]
  · next o rest hstack => rw [hstack]; rfl

theorem addChild_scopes (b : Builder) (place : Nat) :
    (b.addChild place).stack.map Open.scope = b.stack.map Open.scope := by
  unfold addChild
  split
  · next hstack => rw [hstack]
  · next o rest hstack => rw [hstack]; rfl

/-- What closing an element or the root does to its node, the others keep. -/
theorem modify_children (nodes : Array Node) (closed place : Nat) (children : List Nat) (last : Nat) :
    ((nodes.modify closed fun n => { n with children := children, last := last })[place]?).map
        Node.children =
      if closed = place then (nodes[place]?).map fun _ => children
      else (nodes[place]?).map Node.children := by
  rw [Array.getElem?_modify]
  split
  · rw [Option.map_map]
    rfl
  · rfl

theorem modify_node (nodes : Array Node) (closed place : Nat) (children : List Nat) (last : Nat) :
    ((nodes.modify closed fun n => { n with children := children, last := last })[place]?).map
        (fun n => (n.kind, n.scope)) = (nodes[place]?).map fun n => (n.kind, n.scope) := by
  rw [Array.getElem?_modify]
  split
  · rw [Option.map_map]
    rfl
  · rfl

theorem finish?_eq_some {b : Builder} {d : Document} (h : b.finish? = some d) :
    b.stack = [] ∧ d.nodes =
      b.nodes.modify 0 fun n => { n with children := b.top, last := b.nodes.size - 1 } := by
  unfold finish? at h
  split at h
  · next hdone =>
    cases h
    exact ⟨List.isEmpty_iff.1 (Bool.and_eq_true_iff.1 hdone).2, rfl⟩
  · cases h

/-! ## The document in the end -/

/-- A document that a builder may come to: it has the nodes so far, with all that is inside of those that
are complete. -/
structure Continues (b : Builder) (d : Document) : Prop where
  node : ∀ place < b.nodes.size,
    (d.nodes[place]?).map (fun n => (n.kind, n.scope)) =
      (b.nodes[place]?).map fun n => (n.kind, n.scope)
  inside : ∀ place < b.nodes.size, place ≠ 0 → place ∉ b.stack.map Open.place →
    (d.nodes[place]?).map Node.children = (b.nodes[place]?).map Node.children

namespace Continues

variable {b next : Builder} {d : Document}

/-- What a later builder comes to, an earlier one does if its complete nodes stay as they are. -/
theorem of_next (h : next.Continues d) (hsize : b.nodes.size ≤ next.nodes.size)
    (hnode : ∀ place < b.nodes.size, (next.nodes[place]?).map (fun n => (n.kind, n.scope)) =
      (b.nodes[place]?).map fun n => (n.kind, n.scope))
    (hinside : ∀ place < b.nodes.size, place ∉ b.stack.map Open.place →
      (next.nodes[place]?).map Node.children = (b.nodes[place]?).map Node.children ∧
        place ∉ next.stack.map Open.place) : b.Continues d where
  node place hlt := (h.node place (Nat.lt_of_lt_of_le hlt hsize)).trans (hnode place hlt)
  inside place hlt hroot hclosed :=
    (h.inside place (Nat.lt_of_lt_of_le hlt hsize) hroot (hinside place hlt hclosed).2).trans
      (hinside place hlt hclosed).1

/-- Nodes that are added change nothing before them. -/
theorem of_added (h : next.Continues d) {added : Array Node} (hnodes : next.nodes = b.nodes ++ added)
    (hopen : ∀ place ∈ next.stack.map Open.place,
      place ∈ b.stack.map Open.place ∨ place = b.nodes.size) : b.Continues d := by
  have hsame : ∀ place < b.nodes.size, next.nodes[place]? = b.nodes[place]? := by
    intro place hlt
    rw [hnodes, Array.getElem?_append_left hlt]
  refine h.of_next ?_ (fun place hlt => ?_) fun place hlt hclosed => ⟨?_, fun hmem => ?_⟩
  · rw [hnodes, Array.size_append]
    exact Nat.le_add_right _ _
  · rw [hsame place hlt]
  · rw [hsame place hlt]
  · rcases hopen place hmem with hmem | rfl
    · exact hclosed hmem
    · exact Nat.lt_irrefl _ hlt

theorem leaf {kind : NodeKind} {value : String} (h : (b.leaf kind value).Continues d) :
    b.Continues d := by
  have hnodes : (b.leaf kind value).nodes =
      b.nodes ++ #[⟨kind, value, some b.parent, [], [], b.nodes.size, []⟩] := Array.push_eq_append
  refine h.of_added hnodes fun place hmem => .inl ?_
  have hplaces : (b.leaf kind value).stack.map Open.place = b.stack.map Open.place :=
    b.addChild_places _
  rwa [hplaces] at hmem

theorem opens {tag : StartTag} (hstart : b.start? tag.name tag.attributes = some next)
    (h : next.Continues d) : b.Continues d := by
  obtain ⟨element, attributes, hopens⟩ := opens_of_start? hstart
  obtain ⟨byDefault, hstack⟩ := hopens.stack
  refine h.of_added hopens.nodes fun place hmem => ?_
  rw [hstack, List.map_cons, addChild_places] at hmem
  exact (List.mem_cons.1 hmem).symm

theorem closes (hclose : b.close? = some next) (h : next.Continues d) : b.Continues d := by
  unfold close? at hclose
  split at hclose
  · cases hclose
  next o rest hstack =>
  cases hclose
  refine h.of_next (by simp) (fun place _ => modify_node ..) fun place _ hclosed => ?_
  rw [hstack, List.map_cons, List.mem_cons, not_or] at hclosed
  refine ⟨?_, hclosed.2⟩
  exact (modify_children ..).trans (if_neg (Ne.symm hclosed.1))

/-- By induction from the end of the text, so that all that is inside of a node is there already. -/
theorem makes {b' : Builder} {tags : List StartTag} (h : Makes b tags b') (hd : b'.Continues d) :
    b.Continues d := by
  induction h with
  | done b => exact hd
  | leaf kind value _ _ ih => exact (ih hd).leaf
  | opens hstart _ ih => exact .opens hstart (ih hd)
  | closes hclose _ ih => exact .closes hclose (ih hd)

/-- A document continues the builder that it is finished from. -/
theorem of_finish (h : b.finish? = some d) : b.Continues d := by
  obtain ⟨-, hnodes⟩ := finish?_eq_some h
  refine ⟨fun place _ => ?_, fun place _ hroot _ => ?_⟩
  · rw [hnodes, modify_node]
  · rw [hnodes, modify_children, if_neg (Ne.symm hroot)]

end Continues

end Builder

end Document

end Triplify.Xml
