import Triplify.Proofs.Graph.Slots
import Triplify.Proofs.Walk.Subjects
/-!
# Names of subjects

A subject is a slot of the graph, and whether it has its identifier is noted in the context. The note
is copied, handed down and given up, and the name stays in the graph.
-/

namespace Triplify.Mapping

/-! ## What single steps do to slots -/

/-- A step that changes nothing. -/
theorem Step.unchanged {α : Type} {m : Run α} (hm : Step NoChange m) (st : RunState) :
    (m.exec st).2 = st :=
  hm.keeps (R := fun a b => b = a) (fun _ => rfl) (fun h h' => h'.trans h)
    (fun _ _ _ h => h.elim) (fun h => h.elim) (fun h => h.elim) st

variable (s : Setting) (n : Node) (data : XPath.NodeRef) {st : RunState}

theorem exec_subject (st : RunState) : (Run.subject n).exec st = (st.context.handle n, st) :=
  Run.exec_ofExcept _ st

theorem exec_identifierValue (st : RunState) : (identifierValue s n data).exec st =
    (((identifierValue s n data).exec st).1, st) :=
  Prod.ext rfl (Step.unchanged (identifierValue_step s n data) st)

/-- The IRI that an identifier stands for in a state. -/
def identifierIri (st : RunState) : Except MappingError String := do
  st.graph.shortIri (← ((identifierValue s n data).exec st).1)

section
variable {α β : Type} {edit : ShortIri → GraphEdit α} {a : α} {deed : String → Deed}
  (hedit : ∀ id, (edit id).exec st.graph =
    st.graph.outcome (st.graph.shortIri id >>= fun iri => .ok (a, [deed iri])))
  (k : α → Run β)
include hedit

theorem exec_identified_error {e : MappingError} (h : identifierIri s n data st = .error e) :
    (do k (← Run.edit (edit (← identifierValue s n data))) : Run β).exec st = (.error e, st) := by
  have hvalue := exec_identifierValue s n data st
  rw [identifierIri] at h
  cases hid : ((identifierValue s n data).exec st).1 with
  | error e' =>
    rw [hid] at h hvalue
    cases h
    exact Run.exec_bind_error hvalue _
  | ok id =>
    rw [hid] at h hvalue
    have hiri : st.graph.shortIri id = .error e := h
    have hfailed := Run.exec_edit (edit id) st
    rw [hedit, hiri] at hfailed
    exact (Run.exec_bind_ok hvalue _).trans (Run.exec_bind_error hfailed k)

theorem exec_identified_ok {iri : String} (h : identifierIri s n data st = .ok iri) :
    (do k (← Run.edit (edit (← identifierValue s n data))) : Run β).exec st =
      (k a).exec { st with graph := st.graph.enact (deed iri) } := by
  have hvalue := exec_identifierValue s n data st
  rw [identifierIri] at h
  cases hid : ((identifierValue s n data).exec st).1 with
  | error e =>
    rw [hid] at h
    cases h
  | ok id =>
    rw [hid] at h hvalue
    have hiri : st.graph.shortIri id = .ok iri := h
    have hdone := Run.exec_edit (edit id) st
    rw [hedit, hiri] at hdone
    exact (Run.exec_bind_ok hvalue _).trans (Run.exec_bind_ok hdone k)

end

/-- A subject that has its identifier is left alone, and the identifier is not even looked at. -/
theorem exec_runIdentifier_named (h : st.context.hasIdentifier = true) :
    (runIdentifier s n data).exec st = (.ok (), st) := by
  have hread : (runIdentifier s n data).exec st =
      (if !st.context.hasIdentifier then _ else pure () : Run Unit).exec st := rfl
  rw [hread, h]
  rfl

section
variable (h : st.context.hasIdentifier = false)
include h

/-- Without a subject there is nothing to name. -/
theorem exec_runIdentifier_loose (hsubject : st.context.subject = none) :
    (runIdentifier s n data).exec st = (.error (.noSubject n.name), st) := by
  have hread : (runIdentifier s n data).exec st =
      (if !st.context.hasIdentifier then _ else pure () : Run Unit).exec st := rfl
  have hhandle := exec_subject n st
  rw [Context.handle, hsubject] at hhandle
  rw [hread, h]
  exact Run.exec_bind_error hhandle _

variable {slot : Nat} (hsubject : st.context.subject = some slot) (hslot : slot < st.graph.slots.size)
include hsubject hslot

omit hslot in
theorem exec_runIdentifier_unnamed : (runIdentifier s n data).exec st = (do
    let _ ← Run.edit (.identify slot (← identifierValue s n data))
    modify fun st => { st with context := { st.context with hasIdentifier := true } } :
      Run Unit).exec st := by
  have hread : (runIdentifier s n data).exec st =
      (if !st.context.hasIdentifier then _ else pure () : Run Unit).exec st := rfl
  have hhandle := exec_subject n st
  rw [Context.handle, hsubject] at hhandle
  rw [hread, h]
  exact Run.exec_bind_ok hhandle _

omit h hsubject in
theorem exec_identify_slot (id : ShortIri) : (GraphEdit.identify slot id).exec st.graph =
    st.graph.outcome (st.graph.shortIri id >>= fun iri => .ok ((), [.identified slot iri])) := by
  rw [GraphEdit.exec_identify, slotOf, if_pos hslot]
  rfl

/-- An identifier that stands for no IRI changes nothing. -/
theorem exec_runIdentifier_error {e : MappingError} (hiri : identifierIri s n data st = .error e) :
    (runIdentifier s n data).exec st = (.error e, st) :=
  (exec_runIdentifier_unnamed s n data h hsubject).trans
    (exec_identified_error s n data (exec_identify_slot hslot) _ hiri)

/-- A subject that has no identifier gets the one that comes up. -/
theorem exec_runIdentifier_ok {iri : String} (hiri : identifierIri s n data st = .ok iri) :
    (runIdentifier s n data).exec st = (.ok (), { st with
      graph := st.graph.enact (.identified slot iri)
      context := { st.context with hasIdentifier := true } }) :=
  (exec_runIdentifier_unnamed s n data h hsubject).trans
    (exec_identified_ok s n data (exec_identify_slot hslot) _ hiri)

end

/-- A new subject is the next slot. It has its identifier just if there is one among the children. -/
theorem exec_newSubject (st : RunState) :
    (∃ e, (newSubject s n data).exec st = (.error e, st)) ∨
      ∃ name, (newSubject s n data).exec st = (.ok ⟨some st.graph.slots.size, name.isSome⟩,
          { st with graph := st.graph.enact (.opened name) }) ∧
        ∀ iri, name = some iri → ∃ identifier, n.childrenWith .identifier = [identifier] ∧
          identifierIri s identifier data st = .ok iri := by
  unfold newSubject
  split
  · next identifier hchildren =>
    have hedit := fun id => GraphEdit.exec_addNamed id st.graph
    cases hiri : identifierIri s identifier data st with
    | error e => exact .inl ⟨e, exec_identified_error s identifier data hedit _ hiri⟩
    | ok iri =>
      refine .inr ⟨some iri, exec_identified_ok s identifier data hedit _ hiri, fun iri' heq => ?_⟩
      cases heq
      exact ⟨identifier, hchildren, hiri⟩
  · refine .inr ⟨none, rfl, fun iri heq => ?_⟩
    cases heq

/-- A new blank node has no name, and no other slot gets one. -/
theorem newBlank_keeps (st : RunState) :
    st.graph.KeepsNames ((newBlank n).exec st).2.graph ∧
      ((newBlank n).exec st).2.context = st.context := by
  refine (newBlank_step n).keeps (R := fun a b => a.graph.KeepsNames b.graph ∧ b.context = a.context)
    (fun _ => ⟨.refl _, rfl⟩) (fun h h' => ⟨h.1.trans h'.1, h'.2.trans h.2⟩) ?_
    (fun h => h.elim) (fun h => h.elim) st
  intro c st r hc hd
  refine ⟨?_, rfl⟩
  cases c with
  | addBlank type =>
    simp only [Naming.deeds] at hd
    cases hiri : st.graph.nameIri type with
    | error e =>
      rw [hiri] at hd
      cases hd
    | ok iri =>
      rw [hiri] at hd
      cases hd
      exact (Graph.KeepsNames.opened st.graph).trans (.of_slots rfl)
  | link handle predicate target =>
    exact .of_slots (st.graph.enactAll_slots (Naming.leavesSlots_of_deeds rfl hd))
  | _ => exact hc.elim

/-- A new blank node is the next slot, and has no identifier. -/
theorem newBlank_ok {st' : RunState} {inner : Context}
    (h : (newBlank n).exec st = (.ok inner, st')) :
    inner = ⟨some st.graph.slots.size, false⟩ ∧ st.graph.slots.size < st'.graph.slots.size := by
  obtain ⟨predicate, _, hpredicate, h⟩ := Run.of_exec_bind_ok h
  rw [Run.exec_ofExcept] at hpredicate
  obtain ⟨-, rfl⟩ := Prod.mk.inj hpredicate
  obtain ⟨type, _, htype, h⟩ := Run.of_exec_bind_ok h
  rw [Run.exec_ofExcept] at htype
  obtain ⟨-, rfl⟩ := Prod.mk.inj htype
  obtain ⟨handle, _, hhandle, h⟩ := Run.of_exec_bind_ok h
  rw [exec_subject] at hhandle
  obtain ⟨-, rfl⟩ := Prod.mk.inj hhandle
  obtain ⟨blank, st₁, hblank, h⟩ := Run.of_exec_bind_ok h
  rw [Run.exec_edit, GraphEdit.exec_addBlank] at hblank
  obtain ⟨_, st₂, hlink, hdone⟩ := Run.of_exec_bind_ok h
  rw [Run.exec_edit] at hlink
  cases hdone
  have hslots : st'.graph.slots = st₁.graph.slots := by
    rw [← congrArg RunState.graph (Prod.mk.inj hlink).2]
    exact GraphEdit.exec_link_slots handle predicate blank st₁.graph
  rw [hslots]
  cases hiri : st.graph.nameIri type with
  | error e =>
    rw [hiri] at hblank
    cases hblank
  | ok iri =>
    rw [hiri] at hblank
    cases hblank
    refine ⟨rfl, ?_⟩
    show st.graph.slots.size < (st.graph.slots.push none).size
    simp

/-! ## Subjects at hand -/

/-- The contexts at hand, the innermost first, tell the truth: their subjects are different slots of
the graph, and each is noted to have its identifier just if its slot has a name. -/
structure Sound (cs : List Context) (g : Graph) : Prop where
  known : ∀ c ∈ cs, ∀ slot, c.subject = some slot → slot < g.slots.size
  noted : ∀ c ∈ cs, ∀ slot, c.subject = some slot → c.hasIdentifier = (g.nameAt? slot).isSome
  apart : cs.Pairwise fun c c' => ∀ slot, c.subject = some slot → c'.subject ≠ some slot

namespace Sound

variable {cs : List Context} {c : Context} {g g' : Graph} {slot : Nat}

theorem start (g : Graph) : Sound [{}] g where
  known c hc slot hslot := by
    cases List.mem_singleton.1 hc
    cases hslot
  noted c hc slot hslot := by
    cases List.mem_singleton.1 hc
    cases hslot
  apart := List.pairwise_singleton _ _

theorem tail (h : Sound (c :: cs) g) : Sound cs g where
  known c hc := h.known c (.tail _ hc)
  noted c hc := h.noted c (.tail _ hc)
  apart := (List.pairwise_cons.1 h.apart).2

theorem keeps (h : Sound cs g) (hg : g.KeepsNames g') : Sound cs g' where
  known c hc slot hslot := Nat.lt_of_lt_of_le (h.known c hc slot hslot) hg.size
  noted c hc slot hslot := by rw [h.noted c hc slot hslot, hg.names]
  apart := h.apart

/-- A subject gets its name, and this is noted. -/
theorem identified (h : Sound (c :: cs) g) (hslot : c.subject = some slot) (iri : String) :
    Sound ({ c with hasIdentifier := true } :: cs) (g.enact (.identified slot iri)) := by
  have hlt := h.known c (.head _) slot hslot
  obtain ⟨hapart, hrest⟩ := List.pairwise_cons.1 h.apart
  refine ⟨?_, ?_, List.pairwise_cons.2 ⟨hapart, hrest⟩⟩
  · intro c' hc' slot' hslot'
    have hlt' : slot' < g.slots.size := by
      rcases List.mem_cons.1 hc' with rfl | hc'
      · exact h.known c (.head _) slot' hslot'
      · exact h.known c' (.tail _ hc') slot' hslot'
    simpa [Graph.enact] using hlt'
  · intro c' hc' slot' hslot'
    rw [Graph.nameAt?_identified hlt]
    rcases List.mem_cons.1 hc' with rfl | hc'
    · rw [if_pos (Option.some.inj (hslot'.symm.trans hslot))]
      rfl
    · have hne : slot' ≠ slot := by
        rintro rfl
        exact hapart c' hc' slot' hslot hslot'
      rw [if_neg hne]
      exact h.noted c' (.tail _ hc') slot' hslot'

/-- A new subject is another slot than those at hand. -/
theorem opened (h : Sound cs g) (hsize : g.slots.size < g'.slots.size)
    (hnames : ∀ slot, slot < g.slots.size → g'.nameAt? slot = g.nameAt? slot) {inner : Context}
    (hsubject : inner.subject = some g.slots.size)
    (hnoted : inner.hasIdentifier = (g'.nameAt? g.slots.size).isSome) : Sound (inner :: cs) g' := by
  refine ⟨?_, ?_, List.pairwise_cons.2 ⟨?_, h.apart⟩⟩
  · intro c hc slot hslot
    rcases List.mem_cons.1 hc with rfl | hc
    · cases hsubject.symm.trans hslot
      exact hsize
    · exact Nat.lt_trans (h.known c hc slot hslot) hsize
  · intro c hc slot hslot
    rcases List.mem_cons.1 hc with rfl | hc
    · cases hsubject.symm.trans hslot
      exact hnoted
    · rw [hnames slot (h.known c hc slot hslot)]
      exact h.noted c hc slot hslot
  · intro c hc slot hslot hslot'
    cases hsubject.symm.trans hslot
    exact Nat.lt_irrefl _ (h.known c hc _ hslot')

/-- A new slot is opened, with a name or without. -/
theorem next (h : Sound cs g) (name : Option String) :
    Sound (⟨some g.slots.size, name.isSome⟩ :: cs) (g.enact (.opened name)) := by
  refine h.opened ?_ (fun slot hlt => ?_) rfl ?_
  · simp [Graph.enact]
  · rw [Graph.nameAt?_opened, if_neg (Nat.ne_of_lt hlt)]
  · rw [Graph.nameAt?_opened, if_pos rfl]

theorem runIdentifier (h : Sound (st.context :: cs) st.graph) :
    Sound (((runIdentifier s n data).exec st).2.context :: cs)
      ((runIdentifier s n data).exec st).2.graph := by
  cases hflag : st.context.hasIdentifier with
  | true =>
    rw [exec_runIdentifier_named s n data hflag]
    exact h
  | false =>
    cases hsubject : st.context.subject with
    | none =>
      rw [exec_runIdentifier_loose s n data hflag hsubject]
      exact h
    | some slot =>
      have hslot := h.known _ (.head _) slot hsubject
      cases hiri : identifierIri s n data st with
      | error e =>
        rw [exec_runIdentifier_error s n data hflag hsubject hslot hiri]
        exact h
      | ok iri =>
        rw [exec_runIdentifier_ok s n data hflag hsubject hslot hiri]
        exact h.identified hsubject iri

theorem newSubject (h : Sound (st.context :: cs) st.graph) :
    Sound (((newSubject s n data).exec st).2.context :: cs)
      ((newSubject s n data).exec st).2.graph := by
  obtain ⟨e, hrun⟩ | ⟨name, hrun, -⟩ := exec_newSubject s n data st
  · rw [hrun]
    exact h
  · rw [hrun]
    exact (h.next name).tail

end Sound

end Triplify.Mapping
