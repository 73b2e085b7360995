import Triplify.Proofs.Walk.NamedOnce
/-!
# Blank nodes and their links

A `<bnode>` states the class of a new blank node, and then links the node to its subject. What it
needs for the class is looked up before anything is stated, and what it needs for the link is not.

`bnode_is_linked_or_dangles`: a `<bnode>` that fails leaves the graph as it was, unless it is the link
that fails. In a run that is so just if the predicate has no IRI, and the class is then stated of a
node that nothing ever links to.
-/

namespace Triplify

/-- A graph with one more blank node, of which a class is stated. -/
def Graph.withBlank (g : Graph) (type : String) : Graph :=
  g.enactAll [.opened none, .stated ⟨g.slots.size, Rdf.typeIri, .iri type⟩]

theorem Graph.withBlank_statements (g : Graph) (type : String) : (g.withBlank type).statements =
    g.statements ++ [⟨g.slots.size, Rdf.typeIri, .iri type⟩] :=
  g.enactAll_statements _

theorem Graph.withBlank_size (g : Graph) (type : String) :
    (g.withBlank type).slots.size = g.slots.size + 1 :=
  Array.size_push _

theorem GraphEdit.exec_link (handle : Nat) (predicate : QualifiedName) (target : Nat) (g : Graph) :
    (link handle predicate target).exec g = g.outcome (do
      let slot ← slotOf g.slots.size handle
      let target ← slotOf g.slots.size target
      let predicate ← g.nameIri predicate
      return ((), [.stated ⟨slot, predicate, .slot target⟩])) := by
  refine exec_look_bind (·.slot handle) fun slot => ?_
  refine exec_look_bind (·.slot target) fun target => ?_
  exact exec_look_bind (·.nameIri predicate) fun predicate => rfl

namespace Mapping

/-- What a `<bnode>` looks up before it states anything: the name of the predicate, the subject, and
the IRI of the class. -/
structure BlankParts where
  predicate : QualifiedName
  subject : Nat
  type : String

/-- The qualified name that an attribute holds. -/
def Node.nameOf (n : Node) (key : String) : Except MappingError QualifiedName := do
  QualifiedName.parse (← n.require key)

/-- Looks up what a `<bnode>` needs before it states anything. -/
def Node.blankParts (n : Node) (c : Context) (v : Naming) : Except MappingError BlankParts := do
  let predicate ← n.nameOf "predicate"
  let type ← n.nameOf "type"
  let subject ← c.handle n
  let type ← v.nameIri type
  return ⟨predicate, subject, type⟩

namespace BlankParts

variable (parts : BlankParts) (g : Graph)

/-- The link to a new blank node, which needs the subject and the IRI of the predicate. -/
def link : Except MappingError GraphStatement := do
  let subject ← slotOf (g.slots.size + 1) parts.subject
  let predicate ← g.nameIri parts.predicate
  return ⟨subject, predicate, .slot g.slots.size⟩

/-- The class is stated, and then the link is, or not. -/
def state : Run Context := do
  let blank := (← get).graph.slots.size
  modify fun st => { st with graph := st.graph.withBlank parts.type }
  Run.edit (.link parts.subject parts.predicate blank)
  return ⟨some blank, false⟩

end BlankParts

theorem BlankParts.link_ok {parts : BlankParts} {g : Graph} {l : GraphStatement}
    (h : parts.link g = .ok l) : ∃ predicate, g.nameIri parts.predicate = .ok predicate ∧
      l = ⟨parts.subject, predicate, .slot g.slots.size⟩ := by
  obtain ⟨subject, hsubject, h⟩ := of_bind_ok h
  obtain ⟨predicate, hpredicate, h⟩ := of_bind_ok h
  rw [slotOf] at hsubject
  split at hsubject
  · cases hsubject
    cases h
    exact ⟨predicate, hpredicate, rfl⟩
  · cases hsubject

theorem BlankParts.link_of_lt {parts : BlankParts} {g : Graph} (h : parts.subject < g.slots.size) :
    parts.link g =
      (g.nameIri parts.predicate).map fun p => ⟨parts.subject, p, .slot g.slots.size⟩ := by
  rw [link, slotOf_of_lt (Nat.lt_succ_of_lt h)]
  cases g.nameIri parts.predicate <;> rfl

theorem Context.subject_of_handle {c : Context} {n : Node} {handle : Nat}
    (h : c.handle n = .ok handle) : c.subject = some handle := by
  rw [Context.handle] at h
  split at h
  · next handle hc =>
    cases h
    exact hc
  · cases h

theorem Node.blankParts_subject {n : Node} {c : Context} {v : Naming} {parts : BlankParts}
    (h : n.blankParts c v = .ok parts) : c.subject = some parts.subject := by
  obtain ⟨predicate, -, h⟩ := of_bind_ok h
  obtain ⟨name, -, h⟩ := of_bind_ok h
  obtain ⟨subject, hsubject, h⟩ := of_bind_ok h
  obtain ⟨type, -, h⟩ := of_bind_ok h
  cases h
  exact Context.subject_of_handle hsubject

/-- All that a `<bnode>` needs is there, but for the link. -/
structure Node.Dangles (n : Node) (st : RunState) (parts : BlankParts) : Prop where
  parts_eq : n.blankParts st.context st.graph.toNaming = .ok parts
  unlinked : (parts.link st.graph).isOk = false

/-! ## What a `<bnode>` does before its children -/

section
variable {α β : Type} {r : Except MappingError α}

theorem Run.exec_ofExcept_ok {a : α} (h : r = .ok a) (k : α → Run β) (st : RunState) :
    (Run.ofExcept r >>= k).exec st = (k a).exec st :=
  Run.exec_bind_ok (by rw [Run.exec_ofExcept, h]) k

theorem Run.exec_ofExcept_error {e : MappingError} (h : r = .error e) (k : α → Run β)
    (st : RunState) : (Run.ofExcept r >>= k).exec st = (.error e, st) :=
  Run.exec_bind_error (by rw [Run.exec_ofExcept, h]) k

end

/-- Before anything is stated, a `<bnode>` looks up its parts. -/
theorem exec_newBlank (n : Node) (st : RunState) : (newBlank n).exec st =
    (Run.ofExcept (n.blankParts st.context st.graph.toNaming) >>= BlankParts.state).exec st := by
  have hnewBlank : newBlank n = Run.ofExcept (n.nameOf "predicate") >>= fun predicate =>
      Run.ofExcept (n.nameOf "type") >>= fun type => Run.subject n >>= fun handle =>
      Run.edit (.addBlank type) >>= fun blank => Run.edit (.link handle predicate blank) >>= fun _ =>
      pure ⟨some blank, false⟩ := rfl
  rw [hnewBlank, Node.blankParts]
  cases hpredicate : n.nameOf "predicate" with
  | error e => rfl
  | ok predicate =>
  rw [Run.exec_ofExcept_ok rfl]
  cases htype : n.nameOf "type" with
  | error e => rfl
  | ok type =>
  rw [Run.exec_ofExcept_ok rfl]
  have hsubject := exec_subject n st
  cases hhandle : st.context.handle n with
  | error e =>
    rw [hhandle] at hsubject
    exact Run.exec_bind_error hsubject _
  | ok handle =>
  rw [hhandle] at hsubject
  rw [Run.exec_bind_ok hsubject]
  have hblank := Run.exec_edit (.addBlank type) st
  rw [GraphEdit.exec_addBlank] at hblank
  show _ = (Run.ofExcept (st.graph.nameIri type >>= fun iri => .ok ⟨predicate, handle, iri⟩) >>=
    BlankParts.state).exec st
  cases hiri : st.graph.nameIri type with
  | error e =>
    rw [hiri] at hblank
    exact Run.exec_bind_error hblank _
  | ok iri =>
    rw [hiri] at hblank
    exact Run.exec_bind_ok hblank _

section
variable {n : Node} {st : RunState} {parts : BlankParts} {e : MappingError}

/-- While a part is missing nothing is done. -/
theorem exec_newBlank_refused (h : n.blankParts st.context st.graph.toNaming = .error e) :
    (newBlank n).exec st = (.error e, st) := by
  rw [exec_newBlank, Run.exec_ofExcept_error h]

theorem exec_newBlank_parts (h : n.blankParts st.context st.graph.toNaming = .ok parts) :
    (newBlank n).exec st =
      (Run.edit (.link parts.subject parts.predicate st.graph.slots.size) >>= fun _ =>
        pure ⟨some st.graph.slots.size, false⟩ : Run Context).exec
          { st with graph := st.graph.withBlank parts.type } := by
  rw [exec_newBlank, Run.exec_ofExcept_ok h]
  rfl

theorem exec_link_blank (parts : BlankParts) (g : Graph) :
    (GraphEdit.link parts.subject parts.predicate g.slots.size).exec (g.withBlank parts.type) =
      (g.withBlank parts.type).outcome (parts.link g >>= fun l => .ok ((), [.stated l])) := by
  have hlast : slotOf (g.slots.size + 1) g.slots.size = .ok g.slots.size :=
    slotOf_of_lt (Nat.lt_succ_self _)
  have hnaming : (g.withBlank parts.type).nameIri parts.predicate = g.nameIri parts.predicate := rfl
  rw [GraphEdit.exec_link, Graph.withBlank_size, hlast, hnaming, BlankParts.link]
  cases slotOf (g.slots.size + 1) parts.subject with
  | error e => rfl
  | ok subject => cases g.nameIri parts.predicate <;> rfl

/-- When the link fails, the blank node and its class stay. -/
theorem exec_newBlank_dangling (h : n.blankParts st.context st.graph.toNaming = .ok parts)
    (hlink : parts.link st.graph = .error e) :
    (newBlank n).exec st = (.error e, { st with graph := st.graph.withBlank parts.type }) := by
  rw [exec_newBlank_parts h]
  refine Run.exec_bind_error ?_ _
  rw [Run.exec_edit, exec_link_blank, hlink]
  rfl

theorem exec_newBlank_linked (h : n.blankParts st.context st.graph.toNaming = .ok parts)
    {link : GraphStatement} (hlink : parts.link st.graph = .ok link) :
    (newBlank n).exec st = (.ok ⟨some st.graph.slots.size, false⟩,
      { st with graph := (st.graph.withBlank parts.type).enact (.stated link) }) := by
  rw [exec_newBlank_parts h]
  refine (Run.exec_bind_ok (a := ()) ?_ _).trans (Run.exec_pure _ _)
  rw [Run.exec_edit, exec_link_blank, hlink]
  rfl

/-- A `<bnode>` does nothing, or leaves a blank node that is not linked to, or links to it. -/
theorem exec_newBlank_cases (n : Node) (st : RunState) :
    (∃ e, n.blankParts st.context st.graph.toNaming = .error e ∧
      (newBlank n).exec st = (.error e, st)) ∨
    (∃ parts e, n.Dangles st parts ∧
      (newBlank n).exec st = (.error e, { st with graph := st.graph.withBlank parts.type })) ∨
    ∃ parts link, n.blankParts st.context st.graph.toNaming = .ok parts ∧
      parts.link st.graph = .ok link ∧
      (newBlank n).exec st = (.ok ⟨some st.graph.slots.size, false⟩,
        { st with graph := (st.graph.withBlank parts.type).enact (.stated link) }) := by
  cases hparts : n.blankParts st.context st.graph.toNaming with
  | error e => exact .inl ⟨e, rfl, exec_newBlank_refused hparts⟩
  | ok parts =>
    cases hlink : parts.link st.graph with
    | error e =>
      refine .inr (.inl ⟨parts, e, ⟨hparts, ?_⟩, exec_newBlank_dangling hparts hlink⟩)
      rw [hlink]
      rfl
    | ok link => exact .inr (.inr ⟨parts, link, rfl, hlink, exec_newBlank_linked hparts hlink⟩)

end

theorem exec_runBlank_error (body : Body) {n : Node} (data : XPath.NodeRef) {st st' : RunState}
    {e : MappingError} (h : (newBlank n).exec st = (.error e, st')) :
    (runBlank body n data).exec st = (.error e, st') :=
  Run.exec_bind_error h _

/-! ## What comes after -/

end Mapping

namespace Graph

/-- From one graph to another statements are only added, and new statements link to new slots only. -/
structure Advances (g g' : Graph) : Prop where
  size : g.slots.size ≤ g'.slots.size
  made : ∃ new, g'.statements = g.statements ++ new ∧
    ∀ x ∈ new, ∀ slot, x.object = .slot slot → g.slots.size ≤ slot

namespace Advances

variable {g g' g'' : Graph}

theorem refl (g : Graph) : Advances g g :=
  ⟨Nat.le_refl _, [], (List.append_nil _).symm, List.forall_mem_nil _⟩

theorem trans (h : Advances g g') (h' : Advances g' g'') : Advances g g'' := by
  obtain ⟨hsize, new, hnew, hlinks⟩ := h
  obtain ⟨hsize', new', hnew', hlinks'⟩ := h'
  refine ⟨Nat.le_trans hsize hsize', new ++ new', by rw [hnew', hnew, List.append_assoc], ?_⟩
  refine List.forall_mem_append.2 ⟨hlinks, fun x hx slot hslot => ?_⟩
  exact Nat.le_trans hsize (hlinks' x hx slot hslot)

theorem enact (g : Graph) {d : Deed}
    (h : ∀ x, d.statement? = some x → ∀ slot, x.object = .slot slot → g.slots.size ≤ slot) :
    Advances g (g.enact d) := by
  refine ⟨?_, d.statement?.toList, g.enact_statements d, fun x hx => h x (Option.mem_toList.1 hx)⟩
  rw [enact_slots_size]
  exact Nat.le_add_right _ _

theorem enactAll (g : Graph) {ds : List Deed}
    (h : ∀ x ∈ ds.filterMap Deed.statement?, ∀ slot, x.object ≠ .slot slot) :
    Advances g (g.enactAll ds) := by
  induction ds generalizing g with
  | nil => exact refl g
  | cons d ds ih =>
    have hd : ∀ x, d.statement? = some x → x ∈ (d :: ds).filterMap Deed.statement? :=
      fun x hx => List.mem_filterMap.2 ⟨d, .head _, hx⟩
    refine (enact g fun x hx slot hslot => (h x (hd x hx) slot hslot).elim).trans (ih _ fun x hx => ?_)
    obtain ⟨d', hd', hx'⟩ := List.mem_filterMap.1 hx
    exact h x (List.mem_filterMap.2 ⟨d', .tail _ hd', hx'⟩)

theorem withBlank (g : Graph) (type : String) : Advances g (g.withBlank type) := by
  refine enactAll g fun x hx slot => ?_
  cases List.mem_singleton.1 hx
  exact GraphObject.noConfusion

end Advances

end Graph

/-- Only a link has a slot as its object. -/
theorem Naming.object_of_deeds {v : Naming} {slots : Nat} {c : GraphCall}
    {r : Option Nat × List Deed} (hc : ∀ handle predicate target, c ≠ .link handle predicate target)
    (h : v.deeds slots c = .ok r) :
    ∀ x ∈ r.2.filterMap Deed.statement?, ∀ slot, x.object ≠ .slot slot := by
  cases c with
  | link handle predicate target => exact (hc _ _ _ rfl).elim
  | addResource => cases h; simp [Deed.statement?]
  | _ =>
    simp only [Naming.deeds, bind, Except.bind] at h
    repeat' split at h
    all_goals cases h
    all_goals simp [Deed.statement?]

namespace Mapping

theorem newBlank_advances (n : Node) (st : RunState) :
    st.graph.Advances ((newBlank n).exec st).2.graph := by
  obtain ⟨e, -, hrun⟩ | ⟨parts, e, -, hrun⟩ | ⟨parts, link, -, hlink, hrun⟩ :=
    exec_newBlank_cases n st
  · rw [hrun]
    exact .refl _
  · rw [hrun]
    exact .withBlank st.graph parts.type
  · rw [hrun]
    obtain ⟨predicate, -, rfl⟩ := BlankParts.link_ok hlink
    -- The link is to the blank node, which is new.
    obtain ⟨hsize, new, hnew, hlinks⟩ := Graph.Advances.withBlank st.graph parts.type
    refine ⟨hsize, new ++ [⟨parts.subject, predicate, .slot st.graph.slots.size⟩], ?_, ?_⟩
    · rw [Graph.enact_statements, hnew, List.append_assoc]
      rfl
    · refine List.forall_mem_append.2 ⟨hlinks, fun x hx slot hslot => ?_⟩
      cases List.mem_singleton.1 hx
      exact Nat.le_of_eq (GraphObject.slot.inj hslot)

theorem Act.advances {s : Setting} {l : Located} {a : Act} (ha : s.Admits l a) (data : XPath.NodeRef)
    (st : RunState) : st.graph.Advances ((a.run s l data).exec st).2.graph := by
  by_cases hblank : a = .opens .blank
  · subst hblank
    exact newBlank_advances l.node st
  have hlink : ∀ {c}, a.May s l (.graph c) →
      ∀ handle predicate target, c ≠ .link handle predicate target := by
    rintro _ hc handle predicate target rfl
    cases a with
    | opens o =>
      cases o with
      | resource => exact hc
      | blank => exact hblank rfl
    | _ => exact hc
  exact ha.keeps (R := fun st st' => st.graph.Advances st'.graph) (fun _ => .refl _)
    (fun h h' => h.trans h') (fun _ _ => .refl _)
    (fun c st r hc hd => .enactAll _ (Naming.object_of_deeds (hlink hc) hd))
    (fun _ _ _ => .refl _) (fun _ _ => .refl _) data st

theorem Linked.advances {s : Setting} {ms : List Moment} {st st' : RunState}
    (h : Linked s st ms st') (hms : ∀ m ∈ ms, s.Admits m.caller m.act) :
    st.graph.Advances st'.graph := by
  induction ms generalizing st with
  | nil =>
    rw [Alike.graph h]
    exact .refl _
  | cons m rest ih =>
    have hact := Act.advances (hms m (.head _)) m.data m.start
    rw [h.1.graph] at hact
    exact hact.trans (ih h.2 fun m' hm' => hms m' (.tail _ hm'))

/-! ## Linked, or left alone for good -/

section
variable {n : Node} {st : RunState} {parts : BlankParts} {final : Graph}
  (hparts : n.blankParts st.context st.graph.toNaming = .ok parts)
  (hlater : ((newBlank n).exec st).2.graph.Advances final)
include hparts hlater

theorem blank_is_linked {predicate : String}
    (hlink : parts.link st.graph = .ok ⟨parts.subject, predicate, .slot st.graph.slots.size⟩) :
    ∃ rest, final.statements =
      st.graph.statements ++ ⟨st.graph.slots.size, Rdf.typeIri, .iri parts.type⟩ ::
        ⟨parts.subject, predicate, .slot st.graph.slots.size⟩ :: rest := by
  rw [exec_newBlank_linked hparts hlink] at hlater
  obtain ⟨-, new, hnew, -⟩ := hlater
  refine ⟨new, ?_⟩
  rw [hnew, Graph.enact_statements, Graph.withBlank_statements, List.append_assoc, List.append_assoc]
  rfl

theorem blank_is_left {e : MappingError} (hlink : parts.link st.graph = .error e) :
    ∃ rest, final.statements =
      st.graph.statements ++ ⟨st.graph.slots.size, Rdf.typeIri, .iri parts.type⟩ :: rest ∧
      ∀ x ∈ rest, x.object ≠ .slot st.graph.slots.size := by
  rw [exec_newBlank_dangling hparts hlink] at hlater
  obtain ⟨-, new, hnew, hlinks⟩ := hlater
  refine ⟨new, ?_, fun x hx hobject => ?_⟩
  · rw [hnew, Graph.withBlank_statements, List.append_assoc]
    rfl
  · -- Slots that are linked to from now on are newer than the blank node.
    have hle := hlinks x hx _ hobject
    rw [Graph.withBlank_size] at hle
    exact Nat.not_succ_le_self _ hle

end

/-- What becomes of the blank node that a `<bnode>` is to make at a moment, in the graph at the end of
the run. -/
structure Moment.BlankEnd (s : Setting) (m : Moment) (final : Graph) : Prop where
  /-- While a part is missing nothing is done. -/
  refused {e : MappingError} : m.caller.node.blankParts m.start.context m.start.graph.toNaming =
    .error e → m.outcome s = .error e ∧ m.after s = m.start
  /-- With all parts, and an IRI for the predicate, its class is stated right after the statements
  before, and the subject is linked to it next. -/
  linked {parts : BlankParts} {predicate : String} :
    m.caller.node.blankParts m.start.context m.start.graph.toNaming = .ok parts →
    m.start.graph.nameIri parts.predicate = .ok predicate →
    m.start.context.subject = some parts.subject ∧ (m.outcome s).isOk ∧ ∃ rest, final.statements =
      m.start.graph.statements ++ ⟨m.start.graph.slots.size, Rdf.typeIri, .iri parts.type⟩ ::
        ⟨parts.subject, predicate, .slot m.start.graph.slots.size⟩ :: rest
  /-- If the predicate has no IRI its class is stated all the same, and nothing ever links to it. -/
  left {parts : BlankParts} {e : MappingError} :
    m.caller.node.blankParts m.start.context m.start.graph.toNaming = .ok parts →
    m.start.graph.nameIri parts.predicate = .error e →
    m.outcome s = .error e ∧ ∃ rest, final.statements =
      m.start.graph.statements ++ ⟨m.start.graph.slots.size, Rdf.typeIri, .iri parts.type⟩ :: rest ∧
      ∀ x ∈ rest, x.object ≠ .slot m.start.graph.slots.size

/-- A `<bnode>` that fails before its children leaves the statements as they were, just if it is not
the link that fails. In a run every blank node of which a `<bnode>` states the class is linked to by
the next statement, just if the predicate has an IRI. -/
theorem bnode_is_linked_or_dangles (s : Setting) (g : Graph) (taken : Nat) :
    (∀ (body : Body) (n : Node) (data : XPath.NodeRef) (st : RunState) (e : MappingError),
      ((newBlank n).exec st).1 = .error e →
        ((runBlank body n data).exec st).1 = .error e ∧
        (((runBlank body n data).exec st).2.graph.statements = st.graph.statements ↔
          ∀ parts, ¬ n.Dangles st parts) ∧
        ∀ parts, n.Dangles st parts → ((runBlank body n data).exec st).2.graph.statements =
          st.graph.statements ++ [⟨st.graph.slots.size, Rdf.typeIri, .iri parts.type⟩]) ∧
    ∀ m ∈ moments s g taken, m.act = .opens .blank → m.BlankEnd s (runConfig s g taken).2.graph := by
  constructor
  · intro body n data st e he
    obtain ⟨e', hparts, hrun⟩ | ⟨parts, e', hdangles, hrun⟩ | ⟨parts, link, -, -, hrun⟩ :=
      exec_newBlank_cases n st
    · rw [hrun] at he
      cases he
      have hnot : ∀ parts, ¬ n.Dangles st parts := fun parts h => by
        cases hparts.symm.trans h.parts_eq
      rw [exec_runBlank_error body data hrun]
      exact ⟨rfl, iff_of_true rfl hnot, fun parts h => (hnot parts h).elim⟩
    · rw [hrun] at he
      cases he
      rw [exec_runBlank_error body data hrun]
      refine ⟨rfl, iff_of_false (fun h => ?_) fun h => h parts hdangles, fun parts' h => ?_⟩
      · rw [Graph.withBlank_statements] at h
        have hlength := congrArg List.length h
        simp at hlength
      · cases hdangles.parts_eq.symm.trans h.parts_eq
        exact st.graph.withBlank_statements parts.type
    · rw [hrun] at he
      cases he
  · intro m hm hact
    have hsound := (((sound_invariant s).config g taken (Sound.start g)).moments m hm).2
    have hadmits := moments_admitted s g taken
    obtain ⟨pre, post, hms⟩ := List.append_of_mem hm
    have hlinked := linked_config s g taken
    rw [hms] at hlinked hadmits
    have hlater := hlinked.split.2.advances fun m' hm' => hadmits m' (by simp [hm'])
    obtain ⟨f, l, a, data, st⟩ := m
    cases hact
    have hlink : ∀ {parts : BlankParts}, st.context.subject = some parts.subject →
        parts.link st.graph = _ :=
      fun hsubject => BlankParts.link_of_lt (hsound.known _ (.head _) _ hsubject)
    constructor
    case refused =>
      intro e hparts
      have hrun := exec_newBlank_refused hparts
      exact ⟨congrArg Prod.fst hrun, congrArg Prod.snd hrun⟩
    case linked =>
      intro parts predicate hparts hpredicate
      have hsubject := Node.blankParts_subject hparts
      have hstated := hlink hsubject
      rw [hpredicate] at hstated
      have hrun := exec_newBlank_linked hparts hstated
      exact ⟨hsubject, congrArg (·.1.isOk) hrun, blank_is_linked hparts hlater hstated⟩
    case left =>
      intro parts e hparts hpredicate
      have hfailed := hlink (Node.blankParts_subject hparts)
      rw [hpredicate] at hfailed
      have hrun := exec_newBlank_dangling hparts hfailed
      exact ⟨congrArg Prod.fst hrun, blank_is_left hparts hlater hfailed⟩

/-- A blank node of a known class, under a predicate with an unknown prefix. -/
def unknownPart : Node :=
  .mk .bnode "bnode" [("predicate", "ex:part"), ("type", "owl:Thing")] []
    "<bnode predicate=\"ex:part\" type=\"owl:Thing\"/>"

/-- A mapping with the blank node. -/
def unknownPartOnly : Setting where
  config :=
    { root := .mk .mapping "config" [] [.mk .resource "resource" [] [unknownPart] "<resource/>"]
        "<config/>"
      namespaces := .standard
      warnings := [] }
  transforms := {}
  paths := ⟨⟨#[]⟩, []⟩

/-- The class is stated before the prefix of the predicate is looked up, and the blank node is all that
is in the graph at the end. -/
theorem unknownPart_dangles :
    let g : Graph := { namespaces := .standard, base := some "http://base.org/", format := .nTriples }
    let inside : RunState := { graph := g.addResource.2, context := ⟨some 0, false⟩ }
    let run := (runBlank (fun _ _ => pure ()) unknownPart .root).exec inside
    let whole := runConfig unknownPartOnly g 0
    let typed : GraphStatement := ⟨1, Rdf.typeIri, .iri "http://www.w3.org/2002/07/owl#Thing"⟩
    run.1.isOk = false ∧ inside.graph.statements = [] ∧
      run.2.graph.statements = [typed] ∧
      whole.2.graph.statements = [typed] ∧ whole.2.diagnostics.errors.map (·.message) =
        ["Error in <bnode> tag: Unknown namespace prefix 'ex'"] :=
  ⟨by decide +kernel, rfl, by decide +kernel, by decide +kernel, by decide +kernel⟩

end Mapping

end Triplify
