import Triplify.Proofs.Walk.Identity
/-!
# Names are given once

A slot gets a name from the first identifier of its subject that succeeds, and keeps it. Each act
leaves all names as they are, or names one slot that has no name: `Moment.effect`. What a whole run
does is in `subjects_are_named_once`.
-/

namespace Triplify.Mapping

variable {s : Setting}

/-! ## What acts do to names -/

/-- Only an identifier and a new resource give a name. -/
theorem Act.keeps_names {l : Located} {a : Act} (ha : s.Admits l a) (hidentifier : a ≠ .identifier)
    (hresource : a ≠ .opens .resource) (data : XPath.NodeRef) (st : RunState) :
    st.graph.KeepsNames ((a.run s l data).exec st).2.graph ∧
      ((a.run s l data).exec st).2.context = st.context := by
  by_cases hblank : a = .opens .blank
  · subst hblank
    exact newBlank_keeps l.node st
  -- All that is left makes statements or names graphs.
  have hleaves : ∀ c, a.May s l (.graph c) → c.leavesSlots := by
    intro c hc
    cases a with
    | opens o =>
      cases o with
      | resource => exact (hresource rfl).elim
      | blank => exact (hblank rfl).elim
    | identifier => exact (hidentifier rfl).elim
    | sealing => cases c <;> first | rfl | exact hc.elim
    | triple => cases c <;> first | rfl | exact hc.elim
    | type => cases c <;> first | rfl | exact hc.elim
    | _ => exact hc.elim
  have hnamed : ¬ a.May s l .named := by
    intro h
    cases a with
    | opens o => cases o <;> exact h.elim
    | identifier => exact hidentifier rfl
    | _ => exact h.elim
  exact ha.keeps (R := fun st st' => st.graph.KeepsNames st'.graph ∧ st'.context = st.context)
    (fun _ => ⟨.refl _, rfl⟩) (fun h h' => ⟨h.1.trans h'.1, h'.2.trans h.2⟩)
    (fun _ _ => ⟨.refl _, rfl⟩)
    (fun c st r hc hd => ⟨.of_slots (st.graph.enactAll_slots
      (Naming.leavesSlots_of_deeds (hleaves c hc) hd)), rfl⟩)
    (fun _ _ _ => ⟨.refl _, rfl⟩) (fun h => (hnamed h).elim) data st

/-- The subjects at hand and those to come back to always tell the truth. -/
theorem sound_invariant (s : Setting) :
    Invariant s fun outer st => Sound (st.context :: outer) st.graph where
  record _ h := h
  act data ha h := by
    rename_i outer st l a
    by_cases hidentifier : a = .identifier
    · subst hidentifier
      exact h.runIdentifier s l.node data
    by_cases hresource : a = .opens .resource
    · subst hresource
      exact h.newSubject s l.node data
    obtain ⟨hnames, hcontext⟩ := Act.keeps_names ha hidentifier hresource data st
    rw [hcontext]
    exact h.keeps hnames
  opened data ha h hrun := by
    rename_i outer st st' l o inner
    cases o with
    | resource =>
      have hresource : (newSubject s l.node data).exec st = (.ok inner, st') := hrun
      obtain ⟨e, hnew⟩ | ⟨name, hnew, -⟩ := exec_newSubject s l.node data st
      · cases hresource.symm.trans hnew
      · cases hresource.symm.trans hnew
        exact h.next name
    | blank =>
      have hblank : (newBlank l.node).exec st = (.ok inner, st') := hrun
      obtain ⟨hnames, hcontext⟩ := newBlank_keeps l.node st
      obtain ⟨rfl, hsize⟩ := newBlank_ok l.node hblank
      rw [hblank] at hnames hcontext
      rw [hcontext]
      refine h.opened hsize (fun slot _ => hnames.names slot) rfl ?_
      rw [hnames.names, Graph.nameAt?_eq_none_of_le (Nat.le_refl _)]
      rfl
  closed h := h.tail

namespace Moment

/-- The node that acts is an identifier of the slot. -/
structure Identifies (m : Moment) (slot : Nat) : Prop where
  act : m.act = .identifier
  subject : m.start.context.subject = some slot

/-- What an identifier stands for right before the act. -/
def iri (s : Setting) (m : Moment) (identifier : Node) : Except MappingError String :=
  identifierIri s identifier m.data m.start

/-- The act gives the slot a name: by an identifier of the slot, or by the only identifier among the
children of a resource, for which the slot is opened. -/
inductive Names (s : Setting) (m : Moment) (slot : Nat) (iri : String) : Prop
  | identified : m.Identifies slot → m.iri s m.caller.node = .ok iri → Names s m slot iri
  | opened (identifier : Node) : m.act = .opens .resource → m.start.graph.slots.size = slot →
      m.caller.node.childrenWith .identifier = [identifier] → m.iri s identifier = .ok iri →
      Names s m slot iri

/-- An act leaves all names as they are, or gives one to a slot that has none. -/
inductive Effect (s : Setting) (m : Moment) : Prop
  | kept : m.start.graph.KeepsNames (m.after s).graph → Effect s m
  | named (slot : Nat) (iri : String) : m.Names s slot iri → m.start.graph.nameAt? slot = none →
      (∀ other, (m.after s).graph.nameAt? other =
        if other = slot then some iri else m.start.graph.nameAt? other) → Effect s m

section
variable {m : Moment} {slot : Nat} (hsound : Sound (m.start.context :: m.outer) m.start.graph)
include hsound

/-- An identifier of a slot that has a name is skipped: whatever it says, nothing happens. -/
theorem Identifies.skipped (h : m.Identifies slot) (hnamed : (m.start.graph.nameAt? slot).isSome)
    (s : Setting) (n : Node) (data : XPath.NodeRef) :
    (runIdentifier s n data).exec m.start = (.ok (), m.start) := by
  apply exec_runIdentifier_named
  rw [hsound.noted _ (.head _) slot h.subject, hnamed]

section
variable (h : m.Identifies slot) (hunnamed : m.start.graph.nameAt? slot = none)
include h hunnamed

theorem Identifies.unnoted : m.start.context.hasIdentifier = false := by
  rw [hsound.noted _ (.head _) slot h.subject, hunnamed]
  rfl

/-- An identifier that stands for nothing changes nothing. -/
theorem Identifies.failed {e : MappingError} (hiri : m.iri s m.caller.node = .error e) :
    m.outcome s = .error e ∧ m.after s = m.start := by
  have hflag := h.unnoted hsound hunnamed
  have hslot := hsound.known _ (.head _) slot h.subject
  obtain ⟨f, l, a, data, st⟩ := m
  obtain ⟨rfl, hsubject⟩ := h
  have hrun := exec_runIdentifier_error s l.node data hflag hsubject hslot hiri
  exact ⟨congrArg Prod.fst hrun, congrArg Prod.snd hrun⟩

/-- An identifier of a slot that has no name gives the name. -/
theorem Identifies.named {iri : String} (hiri : m.iri s m.caller.node = .ok iri) :
    (m.outcome s).isOk ∧ ∀ other, (m.after s).graph.nameAt? other =
      if other = slot then some iri else m.start.graph.nameAt? other := by
  have hflag := h.unnoted hsound hunnamed
  have hslot := hsound.known _ (.head _) slot h.subject
  obtain ⟨f, l, a, data, st⟩ := m
  obtain ⟨rfl, hsubject⟩ := h
  have hrun := exec_runIdentifier_ok s l.node data hflag hsubject hslot hiri
  refine ⟨congrArg (fun r => r.1.isOk) hrun, fun other => ?_⟩
  have hafter := congrArg (fun r => r.2.graph) hrun
  exact (congrArg (Graph.nameAt? · other) hafter).trans (Graph.nameAt?_identified hslot iri other)

end

omit hsound in
theorem effect_of_after_eq (h : m.after s = m.start) : m.Effect s :=
  .kept (.of_slots (congrArg (·.graph.slots) h))

theorem effect_identifier (h : m.act = .identifier) : m.Effect s := by
  cases hsubject : m.start.context.subject with
  | none =>
    obtain ⟨f, l, a, data, st⟩ := m
    cases h
    cases hflag : st.context.hasIdentifier with
    | true => exact effect_of_after_eq (congrArg (·.2) (exec_runIdentifier_named s l.node data hflag))
    | false =>
      exact effect_of_after_eq
        (congrArg (·.2) (exec_runIdentifier_loose s l.node data hflag hsubject))
  | some slot =>
    have hm : m.Identifies slot := ⟨h, hsubject⟩
    cases hname : m.start.graph.nameAt? slot with
    | some iri =>
      have hskipped := hm.skipped hsound (by rw [hname]; rfl) s m.caller.node m.data
      obtain ⟨f, l, a, data, st⟩ := m
      cases h
      exact effect_of_after_eq (congrArg (·.2) hskipped)
    | none =>
      cases hiri : m.iri s m.caller.node with
      | error e => exact effect_of_after_eq (hm.failed hsound hname hiri).2
      | ok iri =>
        exact .named slot iri (.identified hm hiri) hname (hm.named hsound hname hiri).2

omit hsound in
theorem effect_resource (h : m.act = .opens .resource) : m.Effect s := by
  obtain ⟨f, l, a, data, st⟩ := m
  cases h
  obtain ⟨e, hrun⟩ | ⟨name, hrun, hname⟩ := exec_newSubject s l.node data st
  · exact .kept (.of_slots (congrArg (·.2.graph.slots) hrun))
  have hafter : (Moment.after s ⟨f, l, .opens .resource, data, st⟩).graph =
      st.graph.enact (.opened name) := congrArg (·.2.graph) hrun
  cases name with
  | none =>
    refine .kept ?_
    rw [hafter]
    exact .opened st.graph
  | some iri =>
    obtain ⟨identifier, hchildren, hiri⟩ := hname iri rfl
    refine .named st.graph.slots.size iri ?_ (Graph.nameAt?_eq_none_of_le (Nat.le_refl _)) ?_
    · exact .opened identifier rfl rfl hchildren hiri
    · intro other
      rw [hafter, Graph.nameAt?_opened]

theorem effect (hm : s.Admits m.caller m.act) : m.Effect s := by
  by_cases hidentifier : m.act = .identifier
  · exact effect_identifier hsound hidentifier
  by_cases hresource : m.act = .opens .resource
  · exact effect_resource hresource
  exact .kept (Act.keeps_names hm hidentifier hresource m.data m.start).1

end

end Moment

/-! ## What runs do to names -/

section
variable {ms : List Moment} {st st' : RunState} {slot : Nat} {iri : String}

theorem Moment.Effect.name_kept {m : Moment} (h : m.Effect s)
    (hname : m.start.graph.nameAt? slot = some iri) :
    (m.after s).graph.nameAt? slot = some iri := by
  cases h with
  | kept hkept => rw [hkept.names, hname]
  | named slot' iri' _ hfresh hnames =>
    have hne : slot ≠ slot' := by
      rintro rfl
      cases hname.symm.trans hfresh
    rw [hnames, if_neg hne, hname]

theorem Moment.Effect.others {m : Moment} (h : m.Effect s) (hm : m.Identifies slot) {other : Nat}
    (hne : other ≠ slot) : (m.after s).graph.nameAt? other = m.start.graph.nameAt? other := by
  cases h with
  | kept hkept => exact hkept.names other
  | named slot' iri' hnames _ hall =>
    rw [hall, if_neg]
    rintro rfl
    cases hnames with
    | identified hm' _ => exact hne (Option.some.inj (hm'.subject.symm.trans hm.subject))
    | opened _ hact => cases hm.act.symm.trans hact

/-- A name stays as it is from moment to moment. -/
theorem Linked.name_kept (h : Linked s st ms st') (heffect : ∀ m ∈ ms, m.Effect s)
    (hname : st.graph.nameAt? slot = some iri) :
    (∀ m ∈ ms, m.start.graph.nameAt? slot = some iri) ∧ st'.graph.nameAt? slot = some iri := by
  induction ms generalizing st with
  | nil =>
    refine ⟨List.forall_mem_nil _, ?_⟩
    rw [Alike.graph h, hname]
  | cons m rest ih =>
    have hstart : m.start.graph.nameAt? slot = some iri := by rw [h.1.graph, hname]
    obtain ⟨hrest, hend⟩ := ih h.2 (fun m' hm' => heffect m' (.tail _ hm'))
      ((heffect m (.head _)).name_kept hstart)
    exact ⟨List.forall_mem_cons.2 ⟨hstart, hrest⟩, hend⟩

/-- A name comes from the start, or from a moment at which the slot has none. -/
theorem Linked.name_origin (h : Linked s st ms st') (heffect : ∀ m ∈ ms, m.Effect s)
    (hname : st'.graph.nameAt? slot = some iri) :
    st.graph.nameAt? slot = some iri ∨ ∃ pre m post, ms = pre ++ m :: post ∧ m.Names s slot iri ∧
      m.start.graph.nameAt? slot = none ∧ (m.after s).graph.nameAt? slot = some iri := by
  induction ms generalizing st with
  | nil =>
    rw [Alike.graph h] at hname
    exact .inl hname
  | cons m rest ih =>
    -- The name comes from a later moment, or is there right after this one.
    obtain hafter | ⟨pre, m', post, rfl, hm'⟩ := ih h.2 fun m' hm' => heffect m' (.tail _ hm')
    · cases heffect m (.head _) with
      | kept hkept =>
        rw [hkept.names, h.1.graph] at hafter
        exact .inl hafter
      | named slot' iri' hnames hfresh hall =>
        have hafter' := hafter
        rw [hall] at hafter
        split at hafter
        · next heq =>
          subst heq
          cases hafter
          exact .inr ⟨[], m, rest, rfl, hnames, hfresh, hafter'⟩
        · rw [h.1.graph] at hafter
          exact .inl hafter
    · exact .inr ⟨m :: pre, m', post, rfl, hm'⟩

/-- A slot without a name has had none at the moments before. -/
theorem Linked.unnamed_before {pre post : List Moment} {m m' : Moment}
    (h : Linked s st (pre ++ m :: post) st') (heffect : ∀ x ∈ pre ++ m :: post, x.Effect s)
    (hnone : m.start.graph.nameAt? slot = none) (hm' : m' ∈ pre) :
    m'.start.graph.nameAt? slot = none ∧ (m'.after s).graph.nameAt? slot = none := by
  obtain ⟨before, between, rfl⟩ := List.append_of_mem hm'
  rw [List.append_assoc, List.cons_append] at h heffect
  have hafter : (m'.after s).graph.nameAt? slot = none := by
    refine Option.eq_none_iff_forall_ne_some.2 fun iri hnamed => ?_
    have hlater := (h.split.2.name_kept
      (fun x hx => heffect x (List.mem_append_right _ (.tail _ hx))) hnamed).1 m (by simp)
    cases hnone.symm.trans hlater
  refine ⟨Option.eq_none_iff_forall_ne_some.2 fun iri hnamed => ?_, hafter⟩
  cases hafter.symm.trans ((heffect m' (by simp)).name_kept hnamed)

end

/-! ## Named once -/

theorem Act.keeps_subject {l : Located} {a : Act} (ha : s.Admits l a) (data : XPath.NodeRef)
    (st : RunState) : ((a.run s l data).exec st).2.context.subject = st.context.subject :=
  ha.keeps (R := fun st st' => st'.context.subject = st.context.subject) (fun _ => rfl)
    (fun h h' => h'.trans h) (fun _ _ => rfl) (fun _ _ _ _ _ => rfl) (fun _ _ _ => rfl)
    (fun _ _ => rfl) data st

theorem Moment.sound_after {m : Moment} (hm : s.Admits m.caller m.act)
    (h : Sound m.subjects m.start.graph) : Sound (m.subjectsAfter s) (m.after s).graph := by
  have hact := (sound_invariant s).act m.data hm h
  obtain ⟨f, l, a, data, st⟩ := m
  cases a with
  | opens o =>
    cases houtcome : Moment.outcome s ⟨f, l, .opens o, data, st⟩ with
    | error e =>
      rw [subjectsAfter, houtcome]
      exact hact
    | ok inner =>
      rw [subjectsAfter, houtcome]
      exact (sound_invariant s).opened data hm h (Prod.ext houtcome rfl)
  | _ => exact hact

/-- The moments lead from one graph to another, and each subject is named once on the way. -/
structure NamedOnce (s : Setting) (g : Graph) (ms : List Moment) (g' : Graph) : Prop where
  /-- A name stays as it is. -/
  kept {pre post : List Moment} {m : Moment} {slot : Nat} {iri : String} :
    ms = pre ++ m :: post → m.start.graph.nameAt? slot = some iri →
    (m.after s).graph.nameAt? slot = some iri ∧
      (∀ m' ∈ post, m'.start.graph.nameAt? slot = some iri) ∧ g'.nameAt? slot = some iri
  /-- A name comes from an identifier of the slot, and the identifiers before it have failed. -/
  origin {slot : Nat} {iri : String} : g'.nameAt? slot = some iri → g.nameAt? slot = some iri ∨
    ∃ pre m post, ms = pre ++ m :: post ∧ m.Names s slot iri ∧
      (m.after s).graph.nameAt? slot = some iri ∧
      ∀ m' ∈ pre, m'.Identifies slot →
        ∃ e, m'.iri s m'.caller.node = .error e ∧ m'.outcome s = .error e
  /-- Where there is a name, an identifier does nothing, whatever it says. -/
  skipped {m : Moment} {slot : Nat} : m ∈ ms → m.Identifies slot →
    (m.start.graph.nameAt? slot).isSome → ∀ (other : Setting) (n : Node) (data : XPath.NodeRef),
    (runIdentifier other n data).exec m.start = (.ok (), m.start)
  /-- Where there is no name, an identifier that stands for nothing fails and changes nothing. -/
  failed {m : Moment} {slot : Nat} {e : MappingError} : m ∈ ms → m.Identifies slot →
    m.start.graph.nameAt? slot = none → m.iri s m.caller.node = .error e →
    m.outcome s = .error e ∧ m.after s = m.start
  /-- Where there is no name, any other identifier gives it. -/
  named {m : Moment} {slot : Nat} {iri : String} : m ∈ ms → m.Identifies slot →
    m.start.graph.nameAt? slot = none → m.iri s m.caller.node = .ok iri →
    (m.outcome s).isOk ∧ (m.after s).graph.nameAt? slot = some iri
  /-- An identifier has to do with its own slot only. -/
  others {m : Moment} {slot other : Nat} : m ∈ ms → m.Identifies slot → other ≠ slot →
    (m.after s).graph.nameAt? other = m.start.graph.nameAt? other
  /-- The current subject is the same all through an act. -/
  subject {m : Moment} : m ∈ ms → (m.after s).context.subject = m.start.context.subject
  /-- The subjects at hand are a stack. -/
  stack {pre post : List Moment} {m m' : Moment} : ms = pre ++ m :: m' :: post →
    m'.subjects <:+ m.subjectsAfter s
  /-- The subjects at hand are different slots, each noted to be named just if it is. -/
  sound {m : Moment} : m ∈ ms →
    Sound m.subjects m.start.graph ∧ Sound (m.subjectsAfter s) (m.after s).graph

/-- In every run each subject is named at most once, by the first of its identifiers that succeeds,
and keeps its name. Identifiers before that one change nothing, those after it are skipped without a
look at what they say, and none has to do with another subject, above or below. -/
theorem subjects_are_named_once (s : Setting) (g : Graph) (taken : Nat) :
    NamedOnce s g (moments s g taken) (runConfig s g taken).2.graph := by
  have hlinked := linked_config s g taken
  have hkept := ((sound_invariant s).config g taken (Sound.start g)).moments
  have heffect : ∀ m ∈ moments s g taken, m.Effect s :=
    fun m hm => Moment.effect (hkept m hm).2 (hkept m hm).1
  have hsound : ∀ m ∈ moments s g taken, Sound m.subjects m.start.graph := fun m hm => (hkept m hm).2
  constructor
  case kept =>
    intro pre post m slot iri hms hname
    rw [hms] at hlinked heffect
    have hafter := (heffect m (by simp)).name_kept hname
    obtain ⟨hpost, hend⟩ := hlinked.split.2.name_kept (fun m' hm' => heffect m' (by simp [hm'])) hafter
    exact ⟨hafter, hpost, hend⟩
  case origin =>
    intro slot iri hname
    obtain hstart | ⟨pre, m, post, hms, hnames, hnone, hafter⟩ := hlinked.name_origin heffect hname
    · exact .inl hstart
    refine .inr ⟨pre, m, post, hms, hnames, hafter, fun m' hm' hidentifies => ?_⟩
    have hmem : m' ∈ moments s g taken := hms ▸ List.mem_append_left _ hm'
    rw [hms] at hlinked
    obtain ⟨hbefore, hafter'⟩ := hlinked.unnamed_before (fun x hx => heffect x (hms ▸ hx)) hnone hm'
    cases hiri : m'.iri s m'.caller.node with
    | error e =>
      exact ⟨e, rfl, (hidentifies.failed (hsound m' hmem) hbefore hiri).1⟩
    | ok iri' =>
      -- Had it stood for an IRI, the slot would have had a name from then on.
      have hnamed := (hidentifies.named (hsound m' hmem) hbefore hiri).2 slot
      rw [if_pos rfl, hafter'] at hnamed
      cases hnamed
  case skipped =>
    intro m slot hm hidentifies hnamed
    exact hidentifies.skipped (hsound m hm) hnamed
  case failed =>
    intro m slot e hm hidentifies hunnamed hiri
    exact hidentifies.failed (hsound m hm) hunnamed hiri
  case named =>
    intro m slot iri hm hidentifies hunnamed hiri
    obtain ⟨hok, hnames⟩ := hidentifies.named (hsound m hm) hunnamed hiri
    exact ⟨hok, by rw [hnames, if_pos rfl]⟩
  case others =>
    intro m slot other hm hidentifies hne
    exact (heffect m hm).others hidentifies hne
  case subject =>
    intro m hm
    exact Act.keeps_subject (hkept m hm).1 m.data m.start
  case stack =>
    intro pre post m m' hms
    have hnested := nested_config s g taken
    rw [hms] at hnested
    exact hnested.split.1
  case sound =>
    intro m hm
    exact ⟨hsound m hm, Moment.sound_after (hkept m hm).1 (hsound m hm)⟩

end Triplify.Mapping
