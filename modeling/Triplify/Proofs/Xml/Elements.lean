import Triplify.Proofs.Table
import Triplify.Proofs.Xml.Building
import Triplify.Proofs.Xml.DepthFirst
/-!
# Elements of documents

The elements of a document are those of the start tags in its text, in the same order, and each is followed
by the elements inside of it. The labels in force at an element are those that its start tag declares, and
of the others those in force at an element before it.

`elements_of_text`: so it is for every document that is read.
-/

namespace Triplify.Xml

namespace Document

/-! ## Declared labels -/

theorem areDistinct_pairwise {attributes : List RawAttribute} (h : Builder.areDistinct attributes) :
    attributes.Pairwise fun a b => a.name ≠ b.name := by
  rw [List.pairwise_iff_getElem]
  intro i j hi hj hlt heq
  rw [Builder.areDistinct, List.all_eq_true] at h
  have hfirst : (attributes[i], i) ∈ attributes.zipIdx :=
    List.mem_zipIdx_iff_getElem?.2 (List.getElem?_eq_getElem hi)
  have hlater : attributes[j] ∈ attributes.drop (i + 1) := by
    have hindex : i + 1 + (j - (i + 1)) = j := by omega
    refine List.mem_of_getElem? (i := j - (i + 1)) ?_
    rw [List.getElem?_drop, hindex, List.getElem?_eq_getElem hj]
  have hnone := h _ hfirst
  simp only [Bool.not_eq_true', List.any_eq_false, beq_iff_eq] at hnone
  exact hnone _ hlater heq.symm

theorem labels_of_declared {attributes : List RawAttribute} {own : List (String × String)}
    (h : declared? attributes = some own) : own.map Prod.fst =
      (attributes.filter fun a => a.name.label == some "xmlns").map (·.name.localName) := by
  rw [declared?] at h
  generalize (attributes.filter fun a => a.name.label == some "xmlns") = declaring at h ⊢
  induction declaring generalizing own with
  | nil =>
    cases h
    rfl
  | cons a rest ih =>
    rw [List.mapM_cons] at h
    obtain ⟨first, hfirst, h⟩ := Option.bind_eq_some_iff.1 h
    obtain ⟨others, hothers, h⟩ := Option.bind_eq_some_iff.1 h
    cases h
    dsimp only at hfirst
    split at hfirst
    · cases hfirst
    · cases hfirst
      rw [List.map_cons, List.map_cons, ih hothers]

/-- A start tag declares each label once. -/
theorem declaredBy_nodup {tag : StartTag} (h : Builder.areDistinct tag.attributes) :
    ((declaredBy tag).map Prod.fst).Nodup := by
  rw [declaredBy]
  cases hown : declared? tag.attributes with
  | none => exact List.nodup_nil
  | some own =>
    rw [Option.getD_some, labels_of_declared hown]
    refine List.pairwise_map.2 (List.Pairwise.imp_of_mem ?_ ((areDistinct_pairwise h).filter _))
    intro a b ha hb hne heq
    have hlabel : ∀ c ∈ tag.attributes.filter fun a => a.name.label == some "xmlns",
        c.name = ⟨some "xmlns", c.name.localName⟩ := by
      intro c hc
      have hxmlns : c.name.label = some "xmlns" := by simpa using (List.mem_filter.1 hc).2
      rw [← hxmlns]
    rw [hlabel a ha, hlabel b hb, heq] at hne
    exact hne rfl

/-- The labels that start tags declare, and those in force at their elements: at each element those that it
declares, and of the others those in force at an element before it. -/
inductive Scopes : List (List (String × String)) → List (List (String × String)) → Prop
  | nil : Scopes [] []
  | concat {declared scopes : List (List (String × String))} {own outer : List (String × String)} :
      Scopes declared scopes → (own.map Prod.fst).Nodup →
      outer = [("xml", xmlNamespace)] ∨ outer ∈ scopes →
      Scopes (declared ++ [own]) (scopes ++ [extendScope outer own])

/-! ## Elements in order -/

section
variable (d : Document)

/-- The places of the elements before a place, in order. -/
def elementsBefore (place : Nat) : List Nat := (List.range place).filter d.isElement

/-- The places of all elements, in document order. -/
def elements : List Nat := d.elementsBefore d.nodes.size

/-- The name that the element at a place is written with. -/
def writtenName? (place : Nat) : Option TagName :=
  (d.elementName? place).map fun name => ⟨name.label, name.localName⟩

theorem elementsBefore_succ (place : Nat) :
    d.elementsBefore (place + 1) = d.elementsBefore place ++ [place].filter d.isElement := by
  rw [elementsBefore, List.range_succ, List.filter_append]
  rfl

theorem elementsBefore_add {place count : Nat}
    (h : ∀ i < count, d.isElement (place + i) = false) :
    d.elementsBefore (place + count) = d.elementsBefore place := by
  induction count with
  | zero => rfl
  | succ count ih =>
    have hlast := h count (Nat.lt_succ_self count)
    rw [← Nat.add_assoc, elementsBefore_succ, ih fun i hi => h i (Nat.lt_succ_of_lt hi)]
    simp [hlast]

theorem elementsBefore_nodup (place : Nat) : (d.elementsBefore place).Nodup :=
  List.nodup_range.filter _

theorem mem_elementsBefore {place bound : Nat} :
    place ∈ d.elementsBefore bound ↔ place < bound ∧ d.isElement place := by
  rw [elementsBefore, List.mem_filter, List.mem_range]

end

/-! ## Open elements -/

/-- The elements so far, along the open ones: those complete in the root, then an open one with those
complete inside of it, and so on inward. One more place inside of the innermost may be still to come to. -/
inductive Spine (d : Document) (top : List Nat) : List Open → Option Nat → List Nat → Prop
  | top {before places : List Nat} {pending : Option Nat} : top = before ++ pending.toList →
      Preorder d.elementsIn (before.filter d.isElement) places → Spine d top [] pending places
  | inner {o : Open} {outer : List Open} {before below places : List Nat} {pending : Option Nat} :
      o.children.reverse = before ++ pending.toList →
      Preorder d.elementsIn (before.filter d.isElement) below →
      Spine d top outer (some o.place) places →
      Spine d top (o :: outer) pending (places ++ o.place :: below)

namespace Spine

variable {d : Document} {b : Builder} {top : List Nat} {stack : List Open} {o : Open}
  {places below : List Nat} {place : Nat}

theorem addChild (h : Spine d b.top b.stack none places) (place : Nat) :
    Spine d (b.addChild place).top (b.addChild place).stack (some place) places := by
  unfold Builder.addChild
  split
  · next hstack =>
    rw [hstack] at h ⊢
    cases h with
    | top hbefore hplaces => exact .top (by simp [hbefore]) hplaces
  · next o rest hstack =>
    rw [hstack] at h
    cases h with
    | inner hbefore hbelow houter => exact .inner (by simp [hbefore]) hbelow houter

/-- The place that is still to come is gone through. -/
theorem settle (h : Spine d top stack (some place) places)
    (hplace : Preorder d.elementsIn ([place].filter d.isElement) below) :
    Spine d top stack none (places ++ below) := by
  cases h with
  | @top before places _ hbefore hplaces =>
    have hall : top = before ++ [place] ++ (none : Option Nat).toList := by simp [hbefore]
    refine .top hall ?_
    rw [List.filter_append]
    exact hplaces.append hplace
  | @inner o outer before inside places _ hbefore hinside houter =>
    have hinner : Preorder d.elementsIn ((before ++ [place]).filter d.isElement) (inside ++ below) := by
      rw [List.filter_append]
      exact hinside.append hplace
    have hall : o.children.reverse = before ++ [place] ++ (none : Option Nat).toList := by
      simp [hbefore]
    have hspine := Spine.inner hall hinner houter
    rwa [← List.cons_append, ← List.append_assoc] at hspine

/-- The place is opened. -/
theorem opened (h : Spine d top stack (some o.place) places) (hchildren : o.children = []) :
    Spine d top (o :: stack) none (places ++ [o.place]) := by
  have hnone : o.children.reverse = [] ++ (none : Option Nat).toList := by
    rw [hchildren]
    rfl
  exact .inner hnone .nil h

/-- The innermost open element is closed. -/
theorem closed (h : Spine d top (o :: stack) none places) (helement : d.isElement o.place)
    (hinside : d.elementsIn o.place = o.children.reverse.filter d.isElement) :
    Spine d top stack none places := by
  cases h with
  | inner hbefore hbelow houter =>
    rw [Option.toList_none, List.append_nil] at hbefore
    refine houter.settle ?_
    rw [List.filter_cons_of_pos helement]
    refine .one ?_
    rw [hinside, hbefore]
    exact hbelow

theorem done (h : Spine d top [] none places) :
    Preorder d.elementsIn (top.filter d.isElement) places := by
  cases h with
  | top hbefore hplaces =>
    rw [Option.toList_none, List.append_nil] at hbefore
    rwa [hbefore]

theorem mem {pending : Option Nat} (h : Spine d top stack pending places) :
    ∀ o ∈ stack, o.place ∈ places := by
  induction h with
  | top _ _ => exact List.forall_mem_nil _
  | inner _ _ _ ih =>
    refine List.forall_mem_cons.2 ⟨by simp, fun o ho => ?_⟩
    exact List.mem_append_left _ (ih o ho)

/-- No element is open twice. -/
theorem apart (h : Spine d top (o :: stack) none places) (hnodup : places.Nodup) :
    o.place ∉ stack.map Open.place := by
  intro hmem
  obtain ⟨o', ho', heq⟩ := List.mem_map.1 hmem
  cases h with
  | inner _ _ houter =>
    exact (List.nodup_append.1 hnodup).2.2 _ (houter.mem o' ho') _ (.head _) heq

end Spine

/-! ## The elements of a document that is read -/

/-- The elements that a document has so far are those of the start tags so far. -/
structure Builder.Holds (b : Builder) (d : Document) (tags : List StartTag) : Prop where
  started : 0 < b.nodes.size
  root : d.isElement 0 = false
  spine : Spine d b.top b.stack none (d.elementsBefore b.nodes.size)
  names : (d.elementsBefore b.nodes.size).map d.writtenName? = tags.map fun tag => some tag.name
  declared : ∀ tag ∈ tags, declared? tag.attributes = some (declaredBy tag)
  scopes : Scopes (tags.map declaredBy) ((d.elementsBefore b.nodes.size).map d.scopeAt)
  opened : b.stack.map Open.scope = (b.stack.map Open.place).map d.scopeAt

namespace Builder

variable {b next : Builder} {d : Document} {tags : List StartTag}

theorem Continues.elementName?_eq (h : b.Continues d) {place : Nat} (hlt : place < b.nodes.size) :
    d.elementName? place = (⟨b.nodes⟩ : Document).elementName? place := by
  have hkind : (d.nodes[place]?).map Node.kind = (b.nodes[place]?).map Node.kind := by
    simpa [Function.comp_def] using congrArg (Option.map Prod.fst) (h.node place hlt)
  unfold elementName?
  rw [hkind]

theorem Continues.scopeAt_eq (h : b.Continues d) {place : Nat} (hlt : place < b.nodes.size) :
    d.scopeAt place = (⟨b.nodes⟩ : Document).scopeAt place := by
  have hscope : (d.nodes[place]?).map Node.scope = (b.nodes[place]?).map Node.scope := by
    simpa [Function.comp_def] using congrArg (Option.map Prod.snd) (h.node place hlt)
  rw [scopeAt, scopeAt, hscope]

theorem leaf_elementsBefore {kind : NodeKind} {value : String} (hkind : ∀ name, kind ≠ .element name)
    (hd : (b.leaf kind value).Continues d) : d.isElement b.nodes.size = false ∧
      d.elementsBefore (b.leaf kind value).nodes.size = d.elementsBefore b.nodes.size := by
  have hsize : (b.leaf kind value).nodes.size = b.nodes.size + 1 := Array.size_push _
  have hnone : d.isElement b.nodes.size = false := by
    rw [isElement, hd.elementName?_eq (by rw [hsize]; exact Nat.lt_succ_self _)]
    have hlast : (b.leaf kind value).nodes[b.nodes.size]? = some ⟨kind, value, some b.parent, [], [],
        b.nodes.size, []⟩ := Array.getElem?_push_size
    simp only [elementName?, hlast, Option.map_some]
    split
    · next name heq => exact (hkind name (Option.some.inj heq)).elim
    · rfl
  refine ⟨hnone, ?_⟩
  rw [hsize, elementsBefore_succ]
  simp [hnone]

namespace Opens

variable {tag : StartTag} {element : Node} {attrs : List Node} (h : b.Opens tag next element attrs)
include h

theorem size : next.nodes.size = b.nodes.size + 1 + attrs.length := by
  simp only [h.nodes, Array.size_append, List.size_toArray, List.length_cons]
  omega

theorem getElem?_nodes (i : Nat) :
    (⟨next.nodes⟩ : Document).nodes[b.nodes.size + i]? = (element :: attrs)[i]? := by
  show next.nodes[b.nodes.size + i]? = _
  rw [h.nodes, Array.getElem?_append_right (Nat.le_add_right _ _), Nat.add_sub_cancel_left,
    List.getElem?_toArray]

variable (hd : next.Continues d)
include hd

theorem writtenName? : d.writtenName? b.nodes.size = some tag.name := by
  have hlt : b.nodes.size < next.nodes.size := by rw [h.size]; omega
  obtain ⟨iri, hname⟩ := h.name
  rw [Document.writtenName?, hd.elementName?_eq hlt, elementName?, ← Nat.add_zero b.nodes.size,
    h.getElem?_nodes]
  simp [hname]

theorem scopeAt : d.scopeAt b.nodes.size = extendScope b.scope (declaredBy tag) := by
  have hlt : b.nodes.size < next.nodes.size := by rw [h.size]; omega
  rw [hd.scopeAt_eq hlt, Document.scopeAt, ← Nat.add_zero b.nodes.size, h.getElem?_nodes]
  exact h.scope

/-- The attributes of an element are no elements. -/
theorem elementsBefore :
    d.elementsBefore next.nodes.size = d.elementsBefore b.nodes.size ++ [b.nodes.size] := by
  have helement : d.isElement b.nodes.size := by
    have hname := h.writtenName? hd
    cases hnone : d.elementName? b.nodes.size with
    | none =>
      rw [Document.writtenName?, hnone] at hname
      cases hname
    | some name => rw [isElement, hnone]; rfl
  have hattrs : ∀ i < attrs.length, d.isElement (b.nodes.size + 1 + i) = false := by
    intro i hi
    obtain ⟨a, ha⟩ := h.attributes _ (List.getElem_mem hi)
    have hlt : b.nodes.size + 1 + i < next.nodes.size := by rw [h.size]; omega
    rw [isElement, hd.elementName?_eq hlt, elementName?, Nat.add_assoc, h.getElem?_nodes,
      Nat.add_comm 1, List.getElem?_cons_succ, List.getElem?_eq_getElem hi, Option.map_some, ha]
    rfl
  rw [h.size, elementsBefore_add d hattrs, elementsBefore_succ]
  simp [helement]

end Opens

namespace Holds

theorem leaf {kind : NodeKind} {value : String} (h : b.Holds d tags)
    (hkind : ∀ name, kind ≠ .element name) (hd : (b.leaf kind value).Continues d) :
    (b.leaf kind value).Holds d tags := by
  obtain ⟨hnone, hbefore⟩ := leaf_elementsBefore hkind hd
  refine ⟨?_, h.root, ?_, ?_, h.declared, ?_, ?_⟩
  · have hsize : (b.leaf kind value).nodes.size = b.nodes.size + 1 := Array.size_push _
    omega
  · have hnothing : Preorder d.elementsIn ([b.nodes.size].filter d.isElement) [] := by
      rw [List.filter_cons_of_neg (by simp [hnone])]
      exact .nil
    have hspine := (h.spine.addChild b.nodes.size).settle hnothing
    rw [List.append_nil] at hspine
    rw [hbefore]
    exact hspine
  · rw [hbefore]
    exact h.names
  · rw [hbefore]
    exact h.scopes
  · have hplaces : (b.leaf kind value).stack.map Open.place = b.stack.map Open.place :=
      b.addChild_places _
    have hscopes : (b.leaf kind value).stack.map Open.scope = b.stack.map Open.scope :=
      b.addChild_scopes _
    rw [hplaces, hscopes]
    exact h.opened

/-- The labels in force where the builder is are those of the innermost open element. -/
theorem scope_mem (h : b.Holds d tags) : b.scope = [("xml", xmlNamespace)] ∨
    b.scope ∈ (d.elementsBefore b.nodes.size).map d.scopeAt := by
  cases hstack : b.stack with
  | nil => exact .inl (by rw [scope, hstack]; rfl)
  | cons o outer =>
    have hopened := h.opened
    rw [hstack, List.map_cons, List.map_cons, List.map_cons] at hopened
    have hscope : b.scope = d.scopeAt o.place := by
      rw [scope, hstack]
      exact (List.cons.inj hopened).1
    rw [hscope]
    exact .inr (List.mem_map_of_mem (h.spine.mem o (by rw [hstack]; exact .head _)))

theorem opens {tag : StartTag} (h : b.Holds d tags)
    (hstart : b.start? tag.name tag.attributes = some next) (hd : next.Continues d) :
    next.Holds d (tags ++ [tag]) := by
  obtain ⟨element, attrs, hopens⟩ := opens_of_start? hstart
  obtain ⟨byDefault, hstack⟩ := hopens.stack
  have hbefore := hopens.elementsBefore hd
  have hscope := hopens.scopeAt hd
  refine ⟨by rw [hopens.size]; omega, h.root, ?_, ?_, ?_, ?_, ?_⟩
  · rw [hbefore, hstack, hopens.top]
    exact Spine.opened (h.spine.addChild b.nodes.size) rfl
  · rw [hbefore, List.map_append, List.map_append, h.names, List.map_singleton, List.map_singleton,
      hopens.writtenName? hd]
  · exact List.forall_mem_append.2 ⟨h.declared, List.forall_mem_singleton.2 hopens.declared⟩
  · rw [hbefore, List.map_append, List.map_append, List.map_singleton, List.map_singleton, hscope]
    exact .concat h.scopes (declaredBy_nodup hopens.distinct) h.scope_mem
  · rw [hstack, List.map_cons, List.map_cons, List.map_cons, addChild_places, addChild_scopes, h.opened,
      hopens.scope, hscope]

theorem closes (h : b.Holds d tags) (hclose : b.close? = some next) (hd : next.Continues d) :
    next.Holds d tags := by
  unfold close? at hclose
  split at hclose
  · cases hclose
  next o outer hstack =>
  cases hclose
  have hspine := h.spine
  have hopened := h.opened
  rw [hstack] at hspine hopened
  obtain ⟨hlt, helement⟩ := (mem_elementsBefore d).1 (hspine.mem o (.head _))
  have hapart := hspine.apart (elementsBefore_nodup d _)
  have hroot : o.place ≠ 0 := by
    intro heq
    rw [heq, h.root] at helement
    cases helement
  have hchildren := hd.inside o.place (by simpa using hlt) hroot hapart
  have hinside : d.elementsIn o.place = o.children.reverse.filter d.isElement := by
    rw [elementsIn, hchildren, modify_children, if_pos rfl, Array.getElem?_eq_getElem hlt]
    rfl
  refine ⟨by simpa using h.started, h.root, ?_, ?_, h.declared, ?_, (List.cons.inj hopened).2⟩
  · simpa using hspine.closed helement hinside
  · simpa using h.names
  · simpa using h.scopes

theorem makes {b' : Builder} {more : List StartTag} (h : b.Holds d tags) (hmakes : Makes b more b')
    (hd : b'.Continues d) : b'.Holds d (tags ++ more) := by
  induction hmakes generalizing tags with
  | done b =>
    rw [List.append_nil]
    exact h
  | leaf kind value hkind hrest ih => exact ih (h.leaf hkind (.makes hrest hd)) hd
  | @opens b next b' tag more hstart hrest ih =>
    have hopens := ih (h.opens hstart (.makes hrest hd)) hd
    rwa [List.append_assoc, List.singleton_append] at hopens
  | closes hclose hrest ih => exact ih (h.closes hclose (.makes hrest hd)) hd

theorem start (hd : ({} : Builder).Continues d) : ({} : Builder).Holds d [] := by
  have hroot : d.isElement 0 = false := by
    rw [isElement, hd.elementName?_eq (Nat.zero_lt_one)]
    rfl
  have hnone : d.elementsBefore ({} : Builder).nodes.size = [] := by
    show d.elementsBefore (0 + 1) = []
    rw [elementsBefore_succ, List.filter_cons_of_neg (by simp [hroot])]
    rfl
  refine ⟨Nat.zero_lt_one, hroot, ?_, ?_, List.forall_mem_nil _, ?_, rfl⟩
  · have htop : ([] : List Nat) = [] ++ (none : Option Nat).toList := rfl
    rw [hnone]
    exact .top htop .nil
  · rw [hnone]
    rfl
  · rw [hnone]
    exact .nil

end Holds

end Builder

/-- A document that is read has the elements of the start tags in its text, in document order. -/
structure Reads (d : Document) (tags : List StartTag) : Prop where
  preorder : Preorder d.elementsIn (d.elementsIn 0) d.elements
  names : d.elements.map d.writtenName? = tags.map fun tag => some tag.name
  declared : ∀ tag ∈ tags, declared? tag.attributes = some (declaredBy tag)
  scopes : Scopes (tags.map declaredBy) (d.elements.map d.scopeAt)

theorem elements_of_text {text : String} {d : Document} (h : ofText? text = some d) :
    d.Reads (startTags text) := by
  rw [ofText?_eq] at h
  obtain ⟨pieces, hpieces, h⟩ := Option.bind_eq_some_iff.1 h
  obtain ⟨b, hb, hfinish⟩ := Option.bind_eq_some_iff.1 h
  have hmakes := Builder.makes_of_foldlM hb
  have hcontinues := Builder.Continues.of_finish hfinish
  have hholds := (Builder.Holds.start (.makes hmakes hcontinues)).makes hmakes hcontinues
  have htags : startTags text = pieces.filterMap Markup.startTag? := by
    rw [startTags, hpieces]
    rfl
  rw [List.nil_append, ← htags] at hholds
  obtain ⟨hstack, hnodes⟩ := Builder.finish?_eq_some hfinish
  have helements : d.elements = d.elementsBefore b.nodes.size := by
    rw [elements, hnodes, Array.size_modify]
  have htop : d.elementsIn 0 = b.top.filter d.isElement := by
    rw [elementsIn, hnodes, Builder.modify_children, if_pos rfl,
      Array.getElem?_eq_getElem hholds.started]
    rfl
  refine ⟨?_, ?_, hholds.declared, ?_⟩
  · have hspine := hholds.spine
    rw [hstack] at hspine
    rw [helements, htop]
    exact hspine.done
  · rw [helements]
    exact hholds.names
  · rw [helements]
    exact hholds.scopes

end Document

end Triplify.Xml
