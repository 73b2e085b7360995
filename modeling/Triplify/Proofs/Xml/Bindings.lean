import Triplify.Proofs.Xml.Elements
/-!
# Labels of path expressions

The labels that path expressions can use on a document are bound once each. The label `vp` is that of the
namespace of the root element if it has one. All others that start tags declare, `xml` apart, have what the
first of these declares, also where the declarations are in force again further inside. What is left is up
to the table.

`labels_of_document`: so it is for every document that is read.
-/

namespace Triplify.Xml.Document

variable {bound scope outer inner : List (String × String)}

/-! ## Labels that are free -/

theorem nodup_append_free {front rest : List (String × String)} (hfront : (front.map Prod.fst).Nodup)
    (hrest : (rest.map Prod.fst).Nodup) (hfree : ∀ b ∈ rest, (front.lookup b.1).isNone) :
    ((front ++ rest).map Prod.fst).Nodup := by
  rw [List.map_append, List.nodup_append]
  refine ⟨hfront, hrest, fun label hlabel other hother heq => ?_⟩
  subst heq
  obtain ⟨b, hb, rfl⟩ := List.mem_map.1 hother
  have hbound := isSome_lookup_iff.2 hlabel
  rw [Option.isNone_iff_eq_none.1 (hfree b hb)] at hbound
  cases hbound

theorem lookup_extendScope (outer inner : List (String × String)) (label : String) :
    (extendScope outer inner).lookup label = (inner.lookup label).or (outer.lookup label) := by
  have hfree := lookup_filter (fun label => (inner.lookup label).isNone) outer label
  rw [extendScope, List.lookup_append, hfree]
  cases inner.lookup label <;> rfl

theorem extendScope_nodup (houter : (outer.map Prod.fst).Nodup) (hinner : (inner.map Prod.fst).Nodup) :
    ((extendScope outer inner).map Prod.fst).Nodup :=
  nodup_append_free hinner (houter.sublist (List.filter_sublist.map _))
    fun _ hb => (List.mem_filter.1 hb).2

/-- What is bound stays so, and the rest comes from the scope, apart from the label `xml`. -/
theorem lookup_bindFree (hscope : (scope.map Prod.fst).Nodup) (label : String) :
    (bindFree bound scope).lookup label =
      (bound.lookup label).or (if label = "xml" then none else scope.lookup label) := by
  have hfree := lookup_filter (fun label => label ≠ "xml" && (bound.lookup label).isNone) scope label
  rw [bindFree, List.lookup_append,
    lookup_perm (List.mergeSort_perm _ _).symm (hscope.sublist (List.filter_sublist.map _)), hfree]
  by_cases hxml : label = "xml"
  · simp [hxml]
  · cases bound.lookup label <;> simp [hxml]

theorem bindFree_nodup (hbound : (bound.map Prod.fst).Nodup) (hscope : (scope.map Prod.fst).Nodup) :
    ((bindFree bound scope).map Prod.fst).Nodup := by
  refine nodup_append_free hbound ?_ fun b hb => ?_
  · rw [((List.mergeSort_perm _ _).map Prod.fst).nodup_iff]
    exact hscope.sublist (List.filter_sublist.map _)
  · have hfree := (List.mem_filter.1 (List.mem_mergeSort.1 hb)).2
    exact (Bool.and_eq_true_iff.1 hfree).2

/-! ## Labels of elements in order -/

/-- Without declarations only `xml` is in force. -/
theorem lookup_unscoped {label : String} (hlabel : label ≠ "xml") :
    [("xml", xmlNamespace)].lookup label = none := by
  have hother : (label == "xml") = false := by simpa using hlabel
  rw [List.lookup_cons, hother]
  rfl

theorem lookup_flatten_concat (declared : List (List (String × String)))
    (own : List (String × String)) (label : String) :
    (declared ++ [own]).flatten.lookup label =
      (declared.flatten.lookup label).or (own.lookup label) := by
  rw [List.flatten_append, List.lookup_append]
  simp

namespace Scopes

variable {declared scopes : List (List (String × String))}

/-- A label is in force at most once. -/
theorem nodup (h : Scopes declared scopes) : ∀ scope ∈ scopes, (scope.map Prod.fst).Nodup := by
  induction h with
  | nil => exact List.forall_mem_nil _
  | @concat declared scopes own outer _ hown houter ih =>
    refine List.forall_mem_append.2 ⟨ih, List.forall_mem_singleton.2 (extendScope_nodup ?_ hown)⟩
    rcases houter with rfl | houter
    · simp
    · exact ih outer houter

/-- A label in force has been declared, apart from `xml`. -/
theorem isDeclared (h : Scopes declared scopes) {label : String} (hlabel : label ≠ "xml") :
    ∀ scope ∈ scopes, (scope.lookup label).isSome → (declared.flatten.lookup label).isSome := by
  induction h with
  | nil => exact List.forall_mem_nil _
  | @concat declared scopes own outer _ _ houter ih =>
    rw [lookup_flatten_concat]
    refine List.forall_mem_append.2 ⟨fun scope hscope hsome => ?_, List.forall_mem_singleton.2 ?_⟩
    · simp [ih scope hscope hsome]
    · rw [lookup_extendScope]
      intro hsome
      rcases houter with rfl | houter
      · rw [lookup_unscoped hlabel, Option.or_none] at hsome
        simp [hsome]
      · have houter := ih outer houter
        cases hown : own.lookup label with
        | some iri => simp
        | none =>
          rw [hown, Option.none_or] at hsome
          simp [houter hsome]

/-- What is in force around an element is declared there, so a label that has not been declared is free. -/
theorem lookup_outer (h : Scopes declared scopes)
    (houter : outer = [("xml", xmlNamespace)] ∨ outer ∈ scopes) {label : String} (hlabel : label ≠ "xml")
    (hfree : declared.flatten.lookup label = none) : outer.lookup label = none := by
  rcases houter with rfl | houter
  · exact lookup_unscoped hlabel
  · refine Option.not_isSome_iff_eq_none.1 fun hsome => ?_
    have hdeclared := h.isDeclared hlabel outer houter hsome
    rw [hfree] at hdeclared
    cases hdeclared

/-- Of the labels in force at elements in order, each is bound by the first element that declares it. -/
theorem lookup_foldl (h : Scopes declared scopes) (bound : List (String × String)) (label : String) :
    (scopes.foldl bindFree bound).lookup label =
      (bound.lookup label).or (if label = "xml" then none else declared.flatten.lookup label) := by
  induction h with
  | nil => simp
  | @concat declared scopes own outer hscopes hown houter ih =>
    have hscope := (hscopes.concat hown houter).nodup _ (List.mem_append_right _ (.head _))
    rw [List.foldl_append, List.foldl_cons, List.foldl_nil, lookup_bindFree hscope, ih,
      lookup_flatten_concat]
    by_cases hxml : label = "xml"
    · simp [hxml]
    · rw [if_neg hxml, if_neg hxml, if_neg hxml, Option.or_assoc]
      congr 1
      cases hfirst : declared.flatten.lookup label with
      | some iri => simp
      | none => rw [lookup_extendScope, hscopes.lookup_outer houter hxml hfirst, Option.or_none]

theorem nodup_foldl (h : Scopes declared scopes) {bound : List (String × String)}
    (hbound : (bound.map Prod.fst).Nodup) :
    ((scopes.foldl bindFree bound).map Prod.fst).Nodup := by
  have hscopes := h.nodup
  clear h
  induction scopes generalizing bound with
  | nil => exact hbound
  | cons scope rest ih =>
    obtain ⟨hscope, hrest⟩ := List.forall_mem_cons.1 hscopes
    exact ih (bindFree_nodup hbound hscope) hrest

end Scopes

/-! ## Labels of a table -/

/-- A label that is not bound yet gets what the table says. -/
theorem lookup_bindMissing (bound : List (String × String)) (table : NamespaceTable) (label : String) :
    (bindMissing bound table).lookup label = (bound.lookup label).or (table.get? label) := by
  rw [bindMissing, NamespaceTable.get?]
  induction table.bindings generalizing bound with
  | nil => simp
  | cons binding rest ih =>
    obtain ⟨first, iri⟩ := binding
    rw [List.foldl_cons, ih, List.find?_cons]
    by_cases hlabel : label = first
    · subst hlabel
      cases hbound : bound.lookup label with
      | some own => simp [hbound]
      | none => simp [hbound, List.lookup_append]
    · have hother : (first == label) = false := by simpa using Ne.symm hlabel
      have hother' : (label == first) = false := by simpa using hlabel
      have hkeeps : (if (bound.lookup first).isSome then bound else bound ++ [(first, iri)]).lookup label =
          bound.lookup label := by
        split
        · rfl
        · simp [List.lookup_append, List.lookup_cons, hother']
      rw [hkeeps, hother]

theorem bindMissing_nodup (hbound : (bound.map Prod.fst).Nodup) (table : NamespaceTable) :
    ((bindMissing bound table).map Prod.fst).Nodup := by
  rw [bindMissing]
  induction table.bindings generalizing bound with
  | nil => exact hbound
  | cons binding rest ih =>
    refine ih ?_
    dsimp only
    split
    · exact hbound
    · next hfree =>
      have hnone := Option.isNone_iff_eq_none.2 (Option.not_isSome_iff_eq_none.1 hfree)
      exact nodup_append_free hbound (by simp) (List.forall_mem_singleton.2 hnone)

/-! ## Labels of a document -/

/-- The labels that the start tags in a text declare, in order. -/
def declarations (text : String) : List (String × String) := (startTags text).flatMap declaredBy

/-- The namespace of the root element, which is the first one. -/
def rootNamespace? (d : Document) : Option String :=
  (d.elements.head?.bind d.elementName?).bind Name.namespaceIri

theorem lookup_rootLabel (iri? : Option String) (label : String) :
    (iri?.toList.map fun iri => (rootLabel, iri)).lookup label =
      if label = rootLabel then iri? else none := by
  cases iri? with
  | none => simp
  | some iri =>
    by_cases hlabel : label = rootLabel
    · simp [hlabel]
    · have hother : (label == rootLabel) = false := by simpa using hlabel
      simp [List.lookup_cons, hlabel, hother]

theorem length_elements (d : Document) : d.elements.length ≤ d.nodes.size := by
  simpa [elements, elementsBefore] using List.length_filter_le d.isElement (List.range d.nodes.size)

/-- The labels of a document are bound by its elements in order. -/
theorem Reads.discoverNamespaces_eq {d : Document} {tags : List StartTag} (h : d.Reads tags) :
    d.discoverNamespaces = (d.elements.map d.scopeAt).foldl bindFree
      (d.rootNamespace?.toList.map fun iri => (rootLabel, iri)) := by
  rw [discoverNamespaces, depthFirst_eq h.preorder d.length_elements, Option.getD_some,
    List.foldl_map, rootNamespace?, h.preorder.head?_eq]

/-- However a document is written and whatever the table: each label is bound at most once, to the
namespace of the root element if it is `vp` and there is one, else to what the first start tag that declares
it says, unless it is `xml`, and else to what the table says. All elements are visited, each once and
followed by those inside of it, in document order, which is that of their start tags. -/
theorem labels_of_document {text : String} {d : Document} (h : ofText? text = some d)
    (table : NamespaceTable) :
    let bound := bindMissing d.discoverNamespaces table
    (bound.map Prod.fst).Nodup ∧
    (∀ label, bound.lookup label = (if label = rootLabel then d.rootNamespace? else none).or
      ((if label = "xml" then none else (declarations text).lookup label).or (table.get? label))) ∧
    (∀ {α : Type} (visit : α → Nat → α) (a : α),
      depthFirst d.elementsIn visit d.nodes.size (d.elementsIn 0).reverse.toArray a =
        some (d.elements.foldl visit a)) ∧
    Preorder d.elementsIn (d.elementsIn 0) d.elements ∧
    d.elements.map d.writtenName? = (startTags text).map fun tag => some tag.name := by
  intro bound
  have hreads := elements_of_text h
  refine ⟨?_, fun label => ?_, ?_, hreads.preorder, hreads.names⟩
  · refine bindMissing_nodup ?_ table
    rw [hreads.discoverNamespaces_eq]
    exact hreads.scopes.nodup_foldl (by cases d.rootNamespace? <;> simp)
  · have hdeclarations : declarations text = ((startTags text).map declaredBy).flatten :=
      List.flatMap_def
    rw [lookup_bindMissing, hreads.discoverNamespaces_eq, hreads.scopes.lookup_foldl,
      lookup_rootLabel, Option.or_assoc, hdeclarations]
  · exact fun visit a => depthFirst_eq hreads.preorder d.length_elements a

/-- The root element is in a default namespace. Further inside `dc` is declared again, and `vp` as well. -/
theorem records_labels :
    let text := "<r xmlns=\"x:r\" xmlns:dc=\"x:d\"><a xmlns:dc=\"x:y\" xmlns:vp=\"x:z\"/></r>"
    ∃ d, ofText? text = some d ∧
      let bound := bindMissing d.discoverNamespaces .standard
      bound.lookup "vp" = some "x:r" ∧ bound.lookup "dc" = some "x:d" ∧
        bound.lookup "rdf" = some rdfNamespace := by
  intro text
  have hread : (ofText? text).isSome := by decide +kernel
  obtain ⟨d, hd⟩ := Option.isSome_iff_exists.1 hread
  have hlabels := (labels_of_document hd .standard).2.1
  have hroot : d.rootNamespace? = some "x:r" := by
    have hroot : (ofText? text).bind rootNamespace? = some "x:r" := by decide +kernel
    rwa [hd] at hroot
  have hdc : (declarations text).lookup "dc" = some "x:d" := by decide +kernel
  have hrdf : (declarations text).lookup "rdf" = none := by decide +kernel
  refine ⟨d, hd, ?_, ?_, ?_⟩
  · rw [hlabels, hroot]
    rfl
  · rw [hlabels, hdc, if_neg (by decide), if_neg (by decide)]
    rfl
  · rw [hlabels, hrdf, if_neg (by decide), if_neg (by decide)]
    rfl

end Triplify.Xml.Document
