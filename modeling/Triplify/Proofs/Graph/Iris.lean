import Triplify.Proofs.Graph.Deed
/-!
# IRIs in a graph

All that gets into a graph is looked up first: the texts that a call refers to are expanded by the
namespaces, and then read as IRIs or resolved against the base. So whatever the texts are, what is in
the graph are IRIs with a scheme.

`only_absolute_iris`: that is so after any calls. Without a base a call fails at the first of its
texts that is no such IRI.
-/

namespace Triplify

namespace Rdf

/-- The datatype of a literal. -/
def LiteralType.datatype : LiteralType → String
  | plain => schemaNamespace ++ "string"
  | typed datatype => datatype
  | tagged _ => rdfNamespace ++ "langString"

/-- The IRI of a subject that has one. -/
def Subject.iris : Subject → List String
  | iri s => [s]
  | blank _ => []

/-- The IRI of an object, or that of its datatype. -/
def Term.iris : Term → List String
  | node s => s.iris
  | literal l => [l.type.datatype]

/-- All IRIs of a statement in a graph, with the name of the graph. -/
def Quad.iris (q : Quad) : List String :=
  q.subject.iris ++ q.predicate :: q.object.iris ++ q.graph.toList

end Rdf

/-- The text is an IRI with a scheme. -/
def Absolute (text : String) : Prop := Iri.isAbsolute text.toList

instance : DecidablePred Absolute := fun text =>
  inferInstanceAs (Decidable (Iri.isAbsolute text.toList = true))

theorem absolute_typeIri : Absolute Rdf.typeIri := by decide +kernel

theorem absolute_string : Absolute (Rdf.schemaNamespace ++ "string") := by decide +kernel

theorem absolute_langString : Absolute (rdfNamespace ++ "langString") := by decide +kernel

theorem Iri.ofText?_absolute {base : Option String} {text iri : String}
    (h : ofText? base text = some iri) : Absolute iri := by
  unfold ofText? at h
  dsimp only at h
  split at h
  · next habsolute =>
    cases h
    exact habsolute
  · obtain ⟨b, -, hresolved⟩ := Option.bind_eq_some_iff.1 h
    obtain ⟨chars, hchars, rfl⟩ := Option.map_eq_some_iff.1 hresolved
    unfold resolve? at hchars
    dsimp only at hchars
    split at hchars
    · next hvalid =>
      cases hchars
      rw [Absolute, String.toList_ofList]
      exact (Bool.and_eq_true_iff.1 hvalid).2
    · cases hchars

/-! ## What is looked up -/

namespace Naming

variable {v : Naming} {iri : String}

theorem resolve_absolute {value : String} (h : v.resolve value = .ok iri) : Absolute iri := by
  delta Naming.resolve at h
  split at h
  · next found hfound =>
    cases h
    exact Iri.ofText?_absolute hfound
  · cases h

theorem shortIri_absolute {id : ShortIri} (h : v.shortIri id = .ok iri) : Absolute iri := by
  obtain ⟨value, -, h⟩ := of_bind_ok h
  exact resolve_absolute h

theorem nameIri_absolute {n : QualifiedName} (h : v.nameIri n = .ok iri) : Absolute iri := by
  obtain ⟨value, -, h⟩ := of_bind_ok h
  exact resolve_absolute h

/-- The text that a datatype stands for: a qualified name if its label is known. -/
def datatypeText (v : Naming) (datatype : String) : Except MappingError String :=
  match QualifiedName.parse datatype with
  | .ok n =>
    if (v.namespaces.get? n.label).isSome then v.namespaces.expandName n
    else .ok (Text.trim datatype)
  | .error _ => .ok (Text.trim datatype)

theorem datatypeIri_eq (v : Naming) (datatype : String) :
    v.datatypeIri datatype = v.datatypeText datatype >>= v.resolve := by
  cases hparse : QualifiedName.parse datatype with
  | ok n =>
    simp only [datatypeIri, datatypeText, hparse]
    split
    · rfl
    · exact (pure_bind (Text.trim datatype) v.resolve).symm
  | error e =>
    simp only [datatypeIri, datatypeText, hparse]
    exact (pure_bind (Text.trim datatype) v.resolve).symm

theorem datatypeIri_absolute {datatype : String} (h : v.datatypeIri datatype = .ok iri) :
    Absolute iri := by
  rw [datatypeIri_eq] at h
  obtain ⟨value, -, h⟩ := of_bind_ok h
  exact resolve_absolute h

/-- A literal has the text that it is made of, and a datatype that has been looked up. -/
theorem literal_ok {text : String} {kind : LiteralKind} {l : Rdf.Literal}
    (h : v.literal text kind = .ok l) : l.text = text ∧ Absolute l.type.datatype := by
  cases kind with
  | plain =>
    cases h
    exact ⟨rfl, absolute_string⟩
  | typed datatype =>
    have hmap : (v.datatypeIri datatype).map (Rdf.Literal.ofType text) = .ok l := h
    cases hiri : v.datatypeIri datatype with
    | error e =>
      rw [hiri] at hmap
      cases hmap
    | ok iri =>
      rw [hiri] at hmap
      cases hmap
      rw [Rdf.Literal.ofType]
      split
      · exact ⟨rfl, absolute_string⟩
      · exact ⟨rfl, datatypeIri_absolute hiri⟩
  | language tag =>
    delta Naming.literal at h
    dsimp only at h
    split at h
    · cases h
      exact ⟨rfl, absolute_langString⟩
    · cases h

end Naming

/-! ## What gets into a graph -/

/-- The IRI of an object, or that of its datatype. -/
def GraphObject.iris : GraphObject → List String
  | iri s => [s]
  | slot _ => []
  | literal l => [l.type.datatype]

/-- The IRIs that a deed puts into a graph. -/
def Deed.iris : Deed → List String
  | opened name => name.toList
  | identified _ iri => [iri]
  | stated s => s.predicate :: s.object.iris
  | sealed name => [name]

theorem Naming.deeds_absolute {v : Naming} {slots : Nat} {c : GraphCall}
    {r : Option Nat × List Deed} (h : v.deeds slots c = .ok r) :
    ∀ iri ∈ r.2.flatMap Deed.iris, Absolute iri := by
  cases c with
  | addResource =>
    cases h
    exact List.forall_mem_nil _
  | addNamed id =>
    obtain ⟨iri, hiri, h⟩ := of_bind_ok h
    cases h
    simpa [Deed.iris] using shortIri_absolute hiri
  | identify handle id =>
    obtain ⟨slot, -, h⟩ := of_bind_ok h
    obtain ⟨iri, hiri, h⟩ := of_bind_ok h
    cases h
    simpa [Deed.iris] using shortIri_absolute hiri
  | addObject handle predicate object =>
    obtain ⟨slot, -, h⟩ := of_bind_ok h
    obtain ⟨predicate, hpredicate, h⟩ := of_bind_ok h
    obtain ⟨object, hobject, h⟩ := of_bind_ok h
    cases h
    simpa [Deed.iris, GraphObject.iris] using
      ⟨nameIri_absolute hpredicate, shortIri_absolute hobject⟩
  | addLiteral handle predicate text kind =>
    obtain ⟨slot, -, h⟩ := of_bind_ok h
    obtain ⟨predicate, hpredicate, h⟩ := of_bind_ok h
    obtain ⟨l, hl, h⟩ := of_bind_ok h
    cases h
    simpa [Deed.iris, GraphObject.iris] using ⟨nameIri_absolute hpredicate, (literal_ok hl).2⟩
  | addBlank type =>
    obtain ⟨iri, hiri, h⟩ := of_bind_ok h
    cases h
    simpa [Deed.iris, GraphObject.iris] using ⟨absolute_typeIri, nameIri_absolute hiri⟩
  | link handle predicate target =>
    obtain ⟨slot, -, h⟩ := of_bind_ok h
    obtain ⟨target, -, h⟩ := of_bind_ok h
    obtain ⟨predicate, hpredicate, h⟩ := of_bind_ok h
    cases h
    simpa [Deed.iris, GraphObject.iris] using nameIri_absolute hpredicate
  | sealAs name =>
    obtain ⟨iri, hiri, h⟩ := of_bind_ok h
    cases h
    simpa [Deed.iris] using resolve_absolute hiri

/-! ## What is in a graph -/

namespace Graph

/-- All IRIs in the graph have a scheme: the names of slots, and what statements and the graphs that
they are in hold. -/
structure AllAbsolute (g : Graph) : Prop where
  slots : ∀ name ∈ g.slots, ∀ iri ∈ name, Absolute iri
  emissions : ∀ e ∈ g.emissions, (∀ iri ∈ (Deed.stated e.1).iris, Absolute iri) ∧
    ∀ name ∈ e.2, Absolute name

namespace AllAbsolute

variable {g : Graph}

theorem fresh (v : Naming) (format : OutputFormat) :
    AllAbsolute { toNaming := v, format := format } :=
  ⟨fun _ h => absurd h (Array.not_mem_empty _), List.forall_mem_nil _⟩

theorem enact (h : g.AllAbsolute) {d : Deed} (hd : ∀ iri ∈ d.iris, Absolute iri) :
    (g.enact d).AllAbsolute := by
  constructor
  · cases d with
    | opened name =>
      intro name' hname' iri hiri
      rcases Array.mem_push.1 hname' with hold | rfl
      · exact h.slots name' hold iri hiri
      · exact hd iri (Option.mem_toList.2 hiri)
    | identified slot iri =>
      intro name' hname' iri' hiri'
      rcases Array.mem_or_eq_of_mem_setIfInBounds hname' with hold | rfl
      · exact h.slots name' hold iri' hiri'
      · cases hiri'
        exact hd iri (.head _)
    | stated s => exact h.slots
    | sealed name => exact h.slots
  · rw [enact_emissions]
    cases d with
    | opened name => exact h.emissions
    | identified slot iri => exact h.emissions
    | stated s => exact List.forall_mem_append.2 ⟨h.emissions, by simpa using hd⟩
    | sealed name =>
      intro e he
      obtain ⟨e, hold, rfl⟩ := List.mem_map.1 he
      obtain ⟨hstatement, hgraph⟩ := h.emissions e hold
      refine ⟨hstatement, fun name' hname' => ?_⟩
      rcases Option.or_eq_some_iff.1 hname' with hold | ⟨-, hnew⟩
      · exact hgraph name' hold
      · cases hnew
        exact hd name (.head _)

theorem enactAll (h : g.AllAbsolute) {ds : List Deed}
    (hds : ∀ iri ∈ ds.flatMap Deed.iris, Absolute iri) : (g.enactAll ds).AllAbsolute := by
  induction ds generalizing g with
  | nil => exact h
  | cons d ds ih =>
    rw [List.flatMap_cons, List.forall_mem_append] at hds
    exact ih (h.enact hds.1) hds.2

theorem after (h : g.AllAbsolute) (c : GraphCall) : (g.after c).AllAbsolute := by
  rw [Graph.after, call_eq]
  cases hd : g.toNaming.deeds g.slots.size c with
  | ok r => exact h.enactAll (Naming.deeds_absolute hd)
  | error e => exact h

theorem afterAll (h : g.AllAbsolute) (calls : List GraphCall) : (g.afterAll calls).AllAbsolute := by
  induction calls generalizing g with
  | nil => exact h
  | cons c rest ih => exact ih (h.after c)

theorem subject (h : g.AllAbsolute) (slot : Nat) : ∀ iri ∈ (g.subject slot).iris, Absolute iri := by
  unfold Graph.subject
  split
  · next iri hslot => simpa [Rdf.Subject.iris] using h.slots _ (Array.mem_of_getElem? hslot) iri rfl
  · exact List.forall_mem_nil _

theorem quads (h : g.AllAbsolute) : ∀ q ∈ g.quads, ∀ iri ∈ q.iris, Absolute iri := by
  rw [quads_eq]
  intro q hq
  obtain ⟨e, he, rfl⟩ := List.mem_map.1 hq
  obtain ⟨hstatement, hgraph⟩ := h.emissions e he
  obtain ⟨hpredicate, hobject⟩ := List.forall_mem_cons.1 hstatement
  have hterm : ∀ iri ∈ (g.term e.1.object).iris, Absolute iri := by
    cases hkind : e.1.object <;> rw [hkind] at hobject
    · exact hobject
    · exact h.subject _
    · exact hobject
  refine List.forall_mem_append.2 ⟨List.forall_mem_append.2 ⟨h.subject _, ?_⟩, fun name hname => ?_⟩
  · exact List.forall_mem_cons.2 ⟨hpredicate, hterm⟩
  · exact hgraph name (Option.mem_toList.1 hname)

end AllAbsolute

theorem afterAll_toNaming (g : Graph) (calls : List GraphCall) :
    (g.afterAll calls).toNaming = g.toNaming := by
  have henact : ∀ (ds : List Deed) (g : Graph), (g.enactAll ds).toNaming = g.toNaming := by
    intro ds
    induction ds with
    | nil => exact fun g => rfl
    | cons d ds ih => exact fun g => (ih (g.enact d)).trans (g.enact_toNaming d)
  induction calls generalizing g with
  | nil => rfl
  | cons c rest ih =>
    refine (ih (g.after c)).trans ?_
    rw [after, call_eq]
    cases g.toNaming.deeds g.slots.size c with
    | ok r => exact henact r.2 g
    | error e => rfl

end Graph

/-! ## What is rejected -/

namespace Naming

/-- The texts that a call turns into IRIs, in order. -/
def references (v : Naming) : GraphCall → List (Except MappingError String)
  | .addResource => []
  | .addNamed id => [v.namespaces.expand id]
  | .identify _ id => [v.namespaces.expand id]
  | .addObject _ predicate object => [v.namespaces.expandName predicate, v.namespaces.expand object]
  | .addLiteral _ predicate _ (.typed datatype) =>
    [v.namespaces.expandName predicate, v.datatypeText datatype]
  | .addLiteral _ predicate _ _ => [v.namespaces.expandName predicate]
  | .addBlank type => [v.namespaces.expandName type]
  | .link _ predicate _ => [v.namespaces.expandName predicate]
  | .sealAs name => [.ok name]

/-- Reads texts as IRIs, up to the first that is none. -/
def readAll (v : Naming) : List (Except MappingError String) → Except MappingError Unit
  | [] => .ok ()
  | text :: rest => do
    let _ ← v.resolve (← text)
    v.readAll rest

variable {v : Naming}

theorem readAll_one {text : Except MappingError String} {e : MappingError}
    (h : v.readAll [text] = .error e) : text >>= v.resolve = .error e := by
  have hread : v.readAll [text] = (text >>= v.resolve) >>= fun _ => .ok () :=
    (bind_assoc text v.resolve _).symm
  rw [hread] at h
  cases hiri : text >>= v.resolve with
  | ok iri => cases hiri ▸ h
  | error e' =>
    rw [hiri] at h
    cases h
    rfl

theorem readAll_two {text next : Except MappingError String} {e : MappingError}
    (h : v.readAll [text, next] = .error e) : text >>= v.resolve = .error e ∨
      (∃ iri, text >>= v.resolve = .ok iri) ∧ next >>= v.resolve = .error e := by
  have hread : v.readAll [text, next] = (text >>= v.resolve) >>= fun _ => v.readAll [next] :=
    (bind_assoc text v.resolve _).symm
  rw [hread] at h
  cases hiri : text >>= v.resolve with
  | ok iri =>
    rw [hiri] at h
    exact .inr ⟨⟨iri, rfl⟩, readAll_one h⟩
  | error e' =>
    rw [hiri] at h
    cases h
    exact .inl rfl

/-- A call reads its texts once it has found its subjects, and fails where they fail. -/
theorem deeds_of_readAll {slots : Nat} {c : GraphCall} {e : MappingError}
    (hslots : ∀ handle ∈ c.handles, handle < slots) (h : v.readAll (v.references c) = .error e) :
    v.deeds slots c = .error e := by
  cases c with
  | addResource => cases h
  | addNamed id =>
    have hid : v.shortIri id = .error e := readAll_one h
    rw [deeds, hid]
    rfl
  | identify handle id =>
    have hid : v.shortIri id = .error e := readAll_one h
    rw [deeds, slotOf_of_lt (hslots handle (.head _)), hid]
    rfl
  | addObject handle predicate object =>
    rw [deeds, slotOf_of_lt (hslots handle (.head _))]
    obtain hname | ⟨⟨iri, hname⟩, hid⟩ := readAll_two h
    · have hpredicate : v.nameIri predicate = .error e := hname
      rw [hpredicate]
      rfl
    · have hpredicate : v.nameIri predicate = .ok iri := hname
      have hobject : v.shortIri object = .error e := hid
      rw [hpredicate, hobject]
      rfl
  | addLiteral handle predicate text kind =>
    rw [deeds, slotOf_of_lt (hslots handle (.head _))]
    cases kind with
    | typed datatype =>
      obtain hname | ⟨⟨iri, hname⟩, hdatatype⟩ := readAll_two h
      · have hpredicate : v.nameIri predicate = .error e := hname
        rw [hpredicate]
        rfl
      · have hpredicate : v.nameIri predicate = .ok iri := hname
        have hliteral : v.literal text (.typed datatype) = .error e := by
          show (v.datatypeIri datatype).map (Rdf.Literal.ofType text) = _
          rw [datatypeIri_eq, hdatatype]
          rfl
        rw [hpredicate, hliteral]
        rfl
    | _ =>
      have hname : v.nameIri predicate = .error e := readAll_one h
      rw [hname]
      rfl
  | addBlank type =>
    have hname : v.nameIri type = .error e := readAll_one h
    rw [deeds, hname]
    rfl
  | link handle predicate target =>
    have hname : v.nameIri predicate = .error e := readAll_one h
    rw [deeds, slotOf_of_lt (hslots handle (.head _)),
      slotOf_of_lt (hslots target (.tail _ (.head _))), hname]
    rfl
  | sealAs name =>
    have hname : v.resolve name = .error e := readAll_one h
    rw [deeds, hname]
    rfl

theorem resolve_of_base_none (hbase : v.base = none) {value : String} (h : ¬ Absolute value) :
    v.resolve value = .error (.invalidIri value) := by
  have hnone : Iri.ofText? v.base value = none := by
    rw [hbase, Iri.ofText?]
    exact if_neg h
  delta Naming.resolve
  rw [hnone]

theorem resolve_of_absolute {value : String} (h : Absolute value) : v.resolve value = .ok value := by
  have hsome : Iri.ofText? v.base value = some value := if_pos h
  delta Naming.resolve
  rw [hsome]

theorem readAll_of_base_none (hbase : v.base = none) {value : String} (h : ¬ Absolute value)
    {before after : List (Except MappingError String)}
    (hbefore : ∀ text ∈ before, ∃ iri, text = .ok iri ∧ Absolute iri) :
    v.readAll (before ++ .ok value :: after) = .error (.invalidIri value) := by
  induction before with
  | nil =>
    show (v.resolve value >>= fun _ => v.readAll after) = _
    rw [resolve_of_base_none hbase h]
    rfl
  | cons text before ih =>
    obtain ⟨⟨iri, rfl, hiri⟩, hrest⟩ := List.forall_mem_cons.1 hbefore
    show (v.resolve iri >>= fun _ => v.readAll (before ++ .ok value :: after)) = _
    rw [resolve_of_absolute hiri]
    exact ih hrest

end Naming

/-- After any calls, whatever their texts are, every IRI in the quads has a scheme: subjects,
predicates, objects, datatypes and the names of graphs. Without a base, a call whose subjects are there
fails at the first of its texts that is no IRI with a scheme, and leaves the graph as it is. -/
theorem only_absolute_iris (v : Naming) (format : OutputFormat) (calls : List GraphCall) :
    let g := Graph.afterAll { toNaming := v, format := format } calls
    (∀ q ∈ g.quads, ∀ iri ∈ q.iris, Absolute iri) ∧
    (v.base = none → ∀ c before value after, (∀ handle ∈ c.handles, handle < g.slots.size) →
      v.references c = before ++ .ok value :: after →
      (∀ text ∈ before, ∃ iri, text = .ok iri ∧ Absolute iri) → ¬ Absolute value →
      g.call c = .error (.invalidIri value) ∧ g.after c = g) := by
  intro g
  refine ⟨((Graph.AllAbsolute.fresh v format).afterAll calls).quads, ?_⟩
  intro hbase c before value after hslots hreferences hbefore hvalue
  have hnaming : g.toNaming = v := Graph.afterAll_toNaming _ calls
  have hread : v.readAll (v.references c) = .error (.invalidIri value) := by
    rw [hreferences]
    exact Naming.readAll_of_base_none hbase hvalue hbefore
  have hcall : g.call c = .error (.invalidIri value) := by
    rw [Graph.call_eq, hnaming, Naming.deeds_of_readAll hslots hread]
    rfl
  exact ⟨hcall, by rw [Graph.after, hcall]⟩

end Triplify
