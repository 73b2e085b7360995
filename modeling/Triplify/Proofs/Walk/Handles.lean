import Triplify.Proofs.Walk.Blank
import Triplify.Serialize
/-!
# Handles that are in range

Slots are opened one after the other and never closed. So the subjects at hand in a run are always
slots, and so are the subjects and the objects of all statements, in whatever graph they are.

`handles_are_known`: no call in a run is about a subject that is not there. `statements_in_range`: at
every moment of a run the statements are about slots, so that the graph can be read without a check.
-/

namespace Triplify

/-! ## Statements in range -/

/-- The slots of a statement are among the first so many. -/
structure GraphStatement.InRange (slots : Nat) (x : GraphStatement) : Prop where
  subject : x.subject < slots
  object : ∀ slot, x.object = .slot slot → slot < slots

theorem GraphStatement.InRange.mono {slots slots' : Nat} {x : GraphStatement} (h : x.InRange slots)
    (hle : slots ≤ slots') : x.InRange slots' where
  subject := Nat.lt_of_lt_of_le h.subject hle
  object slot hslot := Nat.lt_of_lt_of_le (h.object slot hslot) hle

/-- A call states something about slots that are there after it. -/
theorem Naming.deeds_inRange {v : Naming} {slots : Nat} {c : GraphCall}
    {r : Option Nat × List Deed} (h : v.deeds slots c = .ok r) :
    ∀ x ∈ r.2.filterMap Deed.statement?, x.InRange (slots + r.2.countP Deed.opens) := by
  have hno : ∀ {x : GraphStatement} {iri : String}, x.object = .iri iri →
      ∀ slot, x.object = .slot slot → slot < slots + r.2.countP Deed.opens := by
    intro x iri hiri slot hslot
    cases hiri.symm.trans hslot
  cases c with
  | addResource =>
    cases h
    exact List.forall_mem_nil _
  | addNamed id =>
    obtain ⟨iri, -, h⟩ := of_bind_ok h
    cases h
    exact List.forall_mem_nil _
  | identify handle id =>
    obtain ⟨slot, -, h⟩ := of_bind_ok h
    obtain ⟨iri, -, h⟩ := of_bind_ok h
    cases h
    exact List.forall_mem_nil _
  | addObject handle predicate object =>
    obtain ⟨slot, hslot, h⟩ := of_bind_ok h
    obtain ⟨predicate, -, h⟩ := of_bind_ok h
    obtain ⟨object, -, h⟩ := of_bind_ok h
    cases h
    exact List.forall_mem_singleton.2 ⟨lt_of_slotOf hslot, hno rfl⟩
  | addLiteral handle predicate text kind =>
    obtain ⟨slot, hslot, h⟩ := of_bind_ok h
    obtain ⟨predicate, -, h⟩ := of_bind_ok h
    obtain ⟨l, -, h⟩ := of_bind_ok h
    cases h
    exact List.forall_mem_singleton.2 ⟨lt_of_slotOf hslot, fun slot hslot => by cases hslot⟩
  | addBlank type =>
    obtain ⟨iri, -, h⟩ := of_bind_ok h
    cases h
    exact List.forall_mem_singleton.2 ⟨Nat.lt_succ_self slots, hno rfl⟩
  | link handle predicate target =>
    obtain ⟨slot, hslot, h⟩ := of_bind_ok h
    obtain ⟨target, htarget, h⟩ := of_bind_ok h
    obtain ⟨predicate, -, h⟩ := of_bind_ok h
    cases h
    refine List.forall_mem_singleton.2 ⟨lt_of_slotOf hslot, fun slot' hslot' => ?_⟩
    cases hslot'
    exact lt_of_slotOf htarget
  | sealAs name =>
    obtain ⟨iri, -, h⟩ := of_bind_ok h
    cases h
    exact List.forall_mem_nil _

namespace Graph

/-- All statements, loose or in named graphs, are about slots of the graph. -/
def InRange (g : Graph) : Prop := ∀ x ∈ g.statements, x.InRange g.slots.size

theorem InRange.enactAll {g : Graph} (h : g.InRange) {c : GraphCall} {r : Option Nat × List Deed}
    (hd : g.toNaming.deeds g.slots.size c = .ok r) : (g.enactAll r.2).InRange := by
  rw [InRange, enactAll_statements, enactAll_slots_size]
  refine List.forall_mem_append.2 ⟨fun x hx => (h x hx).mono (Nat.le_add_right _ _), ?_⟩
  exact Naming.deeds_inRange hd

/-! ## Reading without a check -/

/-- The subject that a slot stands for, if there is such a slot. -/
def subject? (g : Graph) (slot : Nat) : Option Rdf.Subject :=
  g.slots[slot]?.map fun name => name.elim (.blank slot) .iri

/-- The term that an object stands for, if its slot is there. -/
def term? (g : Graph) : GraphObject → Option Rdf.Term
  | .iri iri => some (.node (.iri iri))
  | .slot n => (g.subject? n).map .node
  | .literal l => some (.literal l)

/-- A statement with its terms, if its slots are there. -/
def triple? (g : Graph) (x : GraphStatement) : Option Rdf.Triple := do
  let subject ← g.subject? x.subject
  let object ← g.term? x.object
  return ⟨subject, x.predicate, object⟩

/-- All statements with their graphs, if all slots are there. -/
def quads? (g : Graph) : Option (List Rdf.Quad) :=
  g.emissions.mapM fun e => (g.triple? e.1).map fun t => ⟨t, e.2⟩

/-- All statements without their graphs, if all slots are there. -/
def triples? (g : Graph) : Option (List Rdf.Triple) := g.statements.mapM g.triple?

/-- What writing the graph in its format gives, if all slots are there. -/
def written? (g : Graph) : Option Written :=
  match g.format.writer with
  | .triples write => g.triples?.map fun ts => write g.namespaces (Rdf.numberedTriples ts)
  | .quads write => g.quads?.map fun qs => write g.namespaces (Rdf.numbered qs)

/-- All statements are about slots of the graph, and it is read and written without missing one. -/
structure IsWhole (g : Graph) : Prop where
  inRange : g.InRange
  quads : g.quads? = some g.quads
  triples : g.triples? = some g.triples
  written : g.written? = some g.written

theorem subject?_of_lt {g : Graph} {slot : Nat} (h : slot < g.slots.size) :
    g.subject? slot = some (g.subject slot) := by
  rw [subject?, subject, Array.getElem?_eq_getElem h]
  cases g.slots[slot] <;> rfl

theorem triple?_of_inRange {g : Graph} {x : GraphStatement} (h : x.InRange g.slots.size) :
    g.triple? x = some (g.triple x) := by
  have hterm : g.term? x.object = some (g.term x.object) := by
    cases hobject : x.object with
    | iri iri => rfl
    | slot n => rw [term?, subject?_of_lt (h.object n hobject)]; rfl
    | literal l => rfl
  rw [triple?, subject?_of_lt h.subject, hterm]
  rfl

theorem mapM_some {α β : Type} {f : α → Option β} {g : α → β} {xs : List α}
    (h : ∀ x ∈ xs, f x = some (g x)) : xs.mapM f = some (xs.map g) := by
  induction xs with
  | nil => rfl
  | cons x xs ih =>
    obtain ⟨hx, hxs⟩ := List.forall_mem_cons.1 h
    rw [List.mapM_cons, hx, ih hxs]
    rfl

namespace InRange

variable {g : Graph} (h : g.InRange)
include h

/-- No slot is missed when all statements are listed. -/
theorem quads?_eq : g.quads? = some g.quads := by
  rw [Graph.quads?, quads_eq]
  refine mapM_some fun e he => ?_
  rw [triple?_of_inRange (h e.1 (List.mem_map_of_mem he))]
  rfl

theorem triples?_eq : g.triples? = some g.triples := by
  have htriples : g.triples = g.statements.map g.triple := by
    rw [triples_eq, quads_eq, statements, List.map_map, List.map_map]
    rfl
  rw [Graph.triples?, htriples]
  exact mapM_some fun x hx => triple?_of_inRange (h x hx)

theorem isWhole : g.IsWhole where
  inRange := h
  quads := h.quads?_eq
  triples := h.triples?_eq
  written := by
    rw [written?, written, h.quads?_eq, h.triples?_eq]
    cases g.format.writer <;> rfl

end InRange

/-- The statements are in range after any calls. -/
theorem InRange.afterAll {g : Graph} (h : g.InRange) (calls : List GraphCall) :
    (g.afterAll calls).InRange := by
  induction calls generalizing g with
  | nil => exact h
  | cons c calls ih =>
    refine ih (g := g.after c) ?_
    have hcall := g.call_eq c
    rw [after, hcall]
    cases hd : g.toNaming.deeds g.slots.size c with
    | error e => exact h
    | ok r => exact h.enactAll hd

theorem InRange.fresh (v : Naming) (format : OutputFormat) :
    Graph.InRange { toNaming := v, format := format } := List.forall_mem_nil _

end Graph

namespace Mapping

/-- Statements stay in range all through a run. -/
theorem inRange_invariant (s : Setting) : Invariant s fun _ st => st.graph.InRange := by
  have hact : ∀ {l : Located} {a : Act} (data : XPath.NodeRef) (st : RunState), s.Admits l a →
      st.graph.InRange → ((a.run s l data).exec st).2.graph.InRange := by
    intro l a data st ha
    exact ha.keeps (R := fun st st' => st.graph.InRange → st'.graph.InRange) (fun _ h => h)
      (fun h h' => h' ∘ h) (fun _ _ h => h) (fun _ _ _ _ hd h => h.enactAll hd) (fun _ _ _ h => h)
      (fun _ _ h => h) data st
  refine ⟨fun _ h => h, fun data ha h => hact data _ ha h, fun data ha h hrun => ?_, fun h => h⟩
  have hafter := hact data _ ha h
  rw [hrun] at hafter
  exact hafter

/-! ## Known handles -/

/-- A step that fails does so in its first part, or in its second one from the state after the first. -/
theorem Run.of_exec_bind_error {α β : Type} {m : Run α} {k : α → Run β} {st : RunState}
    {e : MappingError} (h : ((m >>= k).exec st).1 = .error e) : (m.exec st).1 = .error e ∨
      ∃ a st', m.exec st = (.ok a, st') ∧ ((k a).exec st').1 = .error e := by
  rcases hm : m.exec st with ⟨e' | a, st'⟩
  · rw [Run.exec_bind_error hm] at h
    cases h
    exact .inl rfl
  · rw [Run.exec_bind_ok hm] at h
    exact .inr ⟨a, st', rfl, h⟩

theorem StatementAbout.handles {subject : Nat} {c : GraphCall}
    (h : StatementAbout subject (.graph c)) {handle : Nat} (hmem : handle ∈ c.handles) :
    handle = subject := by
  cases c with
  | addObject => exact (List.mem_singleton.1 hmem).trans h
  | addLiteral => exact (List.mem_singleton.1 hmem).trans h
  | _ => exact h.elim

/-- What a node does with its subject fails with a plain error only, if its subject is there. -/
theorem isPlain_of_subject {n : Node} {k : Nat → Run Unit} {st : RunState} {e : MappingError}
    (hk : ∀ handle, Step (StatementAbout handle) (k handle))
    (hsubject : ∀ handle, st.context.subject = some handle → handle < st.graph.slots.size)
    (he : ((Run.subject n >>= k).exec st).1 = .error e) : e.isPlain := by
  obtain he | ⟨handle, st', hhandle, he⟩ := Run.of_exec_bind_error he
  · rw [exec_subject] at he
    exact st.context.handle_plain n e he
  · rw [exec_subject] at hhandle
    obtain ⟨hc, rfl⟩ := Prod.mk.inj hhandle
    have hlt := hsubject handle (Context.subject_of_handle hc)
    obtain hplain | ⟨hfailed, -⟩ | ⟨c, handle', hc, hmem, hle, -⟩ := (hk handle).failure st he
    · exact hplain
    · exact hfailed.elim
    · cases hc.handles hmem
      exact absurd hlt (Nat.not_lt.2 hle)

theorem runTriple_error {s : Setting} {n : Node} {data : XPath.NodeRef} {st : RunState}
    {e : MappingError}
    (hsubject : ∀ handle, st.context.subject = some handle → handle < st.graph.slots.size)
    (he : ((runTriple s n data).exec st).1 = .error e) : e.isPlain := by
  obtain he | ⟨predicate, st', hpredicate, he⟩ := Run.of_exec_bind_error he
  · rw [Run.exec_ofExcept] at he
    exact Plain.bind (n.require_plain "predicate") (fun _ => QualifiedName.parse_plain _) e he
  · rw [Run.exec_ofExcept] at hpredicate
    obtain ⟨-, rfl⟩ := Prod.mk.inj hpredicate
    refine isPlain_of_subject (fun handle => ?_) hsubject he
    refine .bind (.plain (modifier_plain s n)) fun t => ?_
    split
    · refine .bind (Run.valuesOf_step s data n "object" t .any) fun vs => ?_
      exact addObjects_step s (fun _ => rfl) vs
    · refine .bind (require_step n "value") fun _ => ?_
      refine .bind (Run.valuesOf_step s data n "value" t .any) fun vs => ?_
      exact addLiterals_step fun _ _ _ => rfl

theorem runType_error {s : Setting} {n : Node} {data : XPath.NodeRef} {st : RunState}
    {e : MappingError}
    (hsubject : ∀ handle, st.context.subject = some handle → handle < st.graph.slots.size)
    (he : ((runType s n data).exec st).1 = .error e) : e.isPlain :=
  isPlain_of_subject (fun _ => .bind (Run.valuesOf_step s data n "value" none .some)
    fun vs => addClasses_step s (fun _ => rfl) vs) hsubject he

theorem identifierIri_plain (s : Setting) (n : Node) (data : XPath.NodeRef) (st : RunState) :
    Plain (identifierIri s n data st) := by
  refine Plain.bind (fun e he => ?_) fun id => st.graph.shortIri_plain id
  have hstep : Step NoChange (identifierValue s n data) := identifierValue_step s n data
  obtain hplain | ⟨hfailed, -⟩ | ⟨c, handle, hc, -⟩ := hstep.failure st he
  · exact hplain
  · exact hfailed.elim
  · exact hc.elim

theorem runIdentifier_error {s : Setting} {n : Node} {data : XPath.NodeRef} {st : RunState}
    {e : MappingError}
    (hsubject : ∀ handle, st.context.subject = some handle → handle < st.graph.slots.size)
    (he : ((runIdentifier s n data).exec st).1 = .error e) : e.isPlain := by
  cases hflag : st.context.hasIdentifier with
  | true => cases exec_runIdentifier_named s n data hflag ▸ he
  | false =>
    cases hcurrent : st.context.subject with
    | none =>
      rw [exec_runIdentifier_loose s n data hflag hcurrent] at he
      cases he
      rfl
    | some slot =>
      have hslot := hsubject slot hcurrent
      cases hiri : identifierIri s n data st with
      | error e' =>
        rw [exec_runIdentifier_error s n data hflag hcurrent hslot hiri] at he
        cases he
        exact identifierIri_plain s n data st e hiri
      | ok iri => cases exec_runIdentifier_ok s n data hflag hcurrent hslot hiri ▸ he

theorem Node.blankParts_plain (n : Node) (c : Context) (v : Naming) : Plain (n.blankParts c v) := by
  have hname : ∀ key, Plain (n.nameOf key) := fun key =>
    .bind (n.require_plain key) fun _ => QualifiedName.parse_plain _
  refine .bind (hname "predicate") fun predicate => .bind (hname "type") fun type => ?_
  exact .bind (c.handle_plain n) fun subject => .bind (v.nameIri_plain type) fun iri => .pure _

theorem newBlank_error {n : Node} {st : RunState} {e : MappingError}
    (hsubject : ∀ handle, st.context.subject = some handle → handle < st.graph.slots.size)
    (he : ((newBlank n).exec st).1 = .error e) : e.isPlain := by
  cases hparts : n.blankParts st.context st.graph.toNaming with
  | error e' =>
    rw [exec_newBlank_refused hparts] at he
    cases he
    exact n.blankParts_plain _ _ e hparts
  | ok parts =>
    have hlink := BlankParts.link_of_lt (hsubject _ (Node.blankParts_subject hparts))
    cases hpredicate : st.graph.nameIri parts.predicate with
    | error e' =>
      rw [hpredicate] at hlink
      rw [exec_newBlank_dangling hparts hlink] at he
      cases he
      exact st.graph.nameIri_plain _ e hpredicate
    | ok predicate =>
      rw [hpredicate] at hlink
      cases exec_newBlank_linked hparts hlink ▸ he

/-- An act that is not about the current subject calls on the graph without a handle. -/
theorem Act.May.handles {s : Setting} {l : Located} {a : Act} {c : GraphCall}
    (h : a.May s l (.graph c)) (htriple : a ≠ .triple) (htype : a ≠ .type)
    (hidentifier : a ≠ .identifier) (hblank : a ≠ .opens .blank) : c.handles = [] := by
  cases a with
  | triple => exact (htriple rfl).elim
  | type => exact (htype rfl).elim
  | identifier => exact (hidentifier rfl).elim
  | opens o =>
    cases o with
    | blank => exact (hblank rfl).elim
    | resource => cases c <;> first | rfl | exact h.elim
  | sealing => cases c <;> first | rfl | exact h.elim
  | _ => exact h.elim

theorem Act.Fault.ne_unknownHandle {l : Located} {a : Act} {e : MappingError} (h : a.Fault l e)
    (handle : Nat) : e ≠ .processing (.unknownHandle handle) := by
  rintro rfl
  cases h with
  | plain hplain => cases hplain

/-- While the current subject is there, an act does not fail because a subject is not. -/
theorem Act.failure {s : Setting} {l : Located} {a : Act} (ha : s.Admits l a) {data : XPath.NodeRef}
    {st : RunState} {e : MappingError}
    (hsubject : ∀ handle, st.context.subject = some handle → handle < st.graph.slots.size)
    (he : ((a.run s l data).exec st).1 = .error e) :
    a.Fault l e ∨ ∃ message, e = .userDefined message := by
  by_cases herror : a = .error
  · subst herror
    rw [Act.run, exec_runError ha.fits] at he
    exact (Node.verdict_error he).imp_left .plain
  -- Four acts are about the current subject, which is there.
  by_cases htriple : a = .triple
  · subst htriple
    exact .inl (.plain (runTriple_error hsubject he))
  by_cases htype : a = .type
  · subst htype
    exact .inl (.plain (runType_error hsubject he))
  by_cases hidentifier : a = .identifier
  · subst hidentifier
    exact .inl (.plain (runIdentifier_error hsubject he))
  by_cases hblank : a = .opens .blank
  · subst hblank
    exact .inl (.plain (newBlank_error hsubject he))
  obtain h | ⟨hfailed, -⟩ | ⟨c, handle', hc, hmem, -⟩ := (Act.step s l data herror).failure st he
  · exact .inl (.plain h)
  · exact .inl hfailed.fault
  · rw [hc.handles htriple htype hidentifier hblank] at hmem
    cases hmem

/-! ## Whole runs -/

section
variable (s : Setting) (g : Graph) (taken : Nat)

/-- The subjects at hand are slots at every moment of a run, and nothing fails in a run because a
subject is not there. -/
theorem handles_are_known :
    (∀ m ∈ moments s g taken, ∀ c ∈ m.subjects, ∀ handle, c.subject = some handle →
      handle < m.start.graph.slots.size) ∧
    ∀ f ∈ (trace s g taken).filterMap Event.failure?, ∀ handle,
      f.2 ≠ .processing (.unknownHandle handle) := by
  have hkept := ((sound_invariant s).config g taken (Sound.start g)).moments
  refine ⟨fun m hm c hc handle hhandle => (hkept m hm).2.known c hc handle hhandle, ?_⟩
  refine failures_of_moments (E := fun e => ∀ handle, e ≠ .processing (.unknownHandle handle)) ?_ ?_
  · rintro e hfatal handle rfl
    cases hfatal
  · intro m hm e he
    obtain ⟨hadmits, hsound⟩ := hkept m hm
    rintro handle rfl
    obtain hfault | ⟨message, heq⟩ := Act.failure hadmits (hsound.known _ (.head _)) he
    · exact hfault.ne_unknownHandle handle rfl
    · cases heq

theorem statements_in_range (h : g.InRange) :
    (∀ m ∈ moments s g taken, m.start.graph.InRange) ∧ (runConfig s g taken).2.graph.InRange := by
  have hkept := (inRange_invariant s).config g taken h
  exact ⟨fun m hm => (hkept.moments m hm).2, hkept.state⟩

end

end Mapping

end Triplify
