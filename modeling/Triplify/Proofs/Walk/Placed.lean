import Triplify.Proofs.Walk.Account
import Triplify.Proofs.Walk.Outline
/-!
# Who acts in a run

The acts of a run are those of nodes below the root, each with a tag that lets it act so:
`placed_config`. The named mappings that nodes use stand in the configuration as well, so that this
holds of all that they lead to.

`Script.Placed.fails`: what holds of the errors that such acts fail with holds of every failure in a
run.
-/

namespace Triplify.Mapping

/-! ## Where acts stand -/

/-- A node below the root of the configuration. -/
structure Setting.Inner (s : Setting) (l : Located) : Prop where
  stands : l.StandsIn s.config.root
  below : l.place ≠ []

theorem Setting.Inner.child {s : Setting} {l c : Located} (h : l.StandsIn s.config.root)
    (hc : c ∈ l.children) : s.Inner c where
  stands := h.child hc
  below := by
    obtain ⟨i, -, hp⟩ := Located.mem_children.1 hc
    simp [hp]

/-- What a node uses is the first named mapping of some name. -/
theorem Setting.target_found {s : Setting} {n : Node} {found : Located}
    (h : s.target n = .ok found) : ∃ name, s.namedMapping? name = some found := by
  rw [Setting.target] at h
  cases hname : n.require "name" with
  | error e =>
    rw [hname] at h
    cases h
  | ok name =>
    rw [hname] at h
    have hnamed : s.named name = .ok found := h
    rw [Setting.named] at hnamed
    split at hnamed
    · next target htarget =>
      cases hnamed
      exact ⟨name, htarget⟩
    · cases hnamed

theorem Setting.target_standsIn {s : Setting} {n : Node} {found : Located}
    (h : s.target n = .ok found) : found.StandsIn s.config.root := by
  obtain ⟨name, hfound⟩ := Setting.target_found h
  exact Setting.namedMapping?_standsIn hfound

/-- An act of a node that can act so. -/
structure Setting.Admits (s : Setting) (l : Located) (a : Act) : Prop extends s.Inner l where
  fits : a.Fits l.node.tag

/-- What each change that an act may make keeps, and what recording keeps, the act keeps. -/
theorem Setting.Admits.keeps {s : Setting} {l : Located} {a : Act} (h : s.Admits l a)
    {R : RunState → RunState → Prop} (hrefl : ∀ st, R st st)
    (htrans : ∀ {a b c}, R a b → R b c → R a c)
    (hrecord : ∀ st d, R st { st with diagnostics := d })
    (hcall : ∀ c st r, a.May s l (.graph c) → st.graph.deeds st.graph.slots.size c = .ok r →
      R st { st with graph := st.graph.enactAll r.2 })
    (hregistries : a.May s l .registries → ∀ st r, R st { st with registries := r })
    (hnamed : a.May s l .named →
      ∀ st, R st { st with context := { st.context with hasIdentifier := true } })
    (data : XPath.NodeRef) (st : RunState) : R st ((a.run s l data).exec st).2 := by
  by_cases herror : a = .error
  · subst herror
    have hrun : ((runError l.node).exec st).2 = _ := congrArg Prod.snd (exec_runError h.fits st)
    show R st ((runError l.node).exec st).2
    rw [hrun]
    exact hrecord st _
  · exact (Act.step s l data herror).keeps hrefl htrans hcall hregistries hnamed st

/-- What a script is for: a node, or the children of one. -/
inductive Role
  | node
  | children

namespace Script

/-- Carried out for a node, the script has only acts of nodes that can act so. The script of a node
comes to children only through a body. -/
def Placed (s : Setting) : {α : Type} → Role → Located → Script α → Prop
  | _, _, _, done _ => True
  | _, r, l, own a data next => s.Admits l a ∧
    ∀ st answer, ((a.run s l data).exec st).1 = .ok answer → (next answer).Placed s r l
  | _, r, l, inside o _ body next =>
    s.Admits l (.opens o) ∧ body.Placed s r l ∧ next.Placed s r l
  | _, r, l, naming _ next => s.Admits l .sealing ∧ next.Placed s r l
  | _, r, l, enter target _ body next =>
    s.Admits l (.enter target) ∧ body.Placed s .children l ∧ next.Placed s r l
  | _, r, l, child c x next => r = .children ∧
    s.Inner c ∧ x.Placed s .node c ∧ ∀ result, (next result).Placed s r l

end Script

theorem Setting.Leads.standsIn {s : Setting} {l target : Located} (h : s.Leads l target)
    (hl : l.StandsIn s.config.root) : target.StandsIn s.config.root := by
  cases h with
  | own _ => exact hl
  | branch hc => exact hl.childWith hc
  | fallback hc => exact hl.childWith hc
  | used htarget => exact Setting.target_standsIn htarget

section
variable {s : Setting} {l : Located} {α : Type} {body : ScriptBody}
  (hbody : ∀ (caller l : Located) (data : XPath.NodeRef), s.Inner caller →
    l.StandsIn s.config.root → (body l data).Placed s .children caller)
  (hl : s.Inner l) (data : XPath.NodeRef)
include hbody hl

/-- An outline in which all bodies are placed is placed. -/
theorem Script.Sited.placed {x : Script α} (h : x.Sited s l) : (x.filled body).Placed s .node l := by
  induction x with
  | done a => trivial
  | own a data next ih =>
    exact ⟨⟨hl, h.1.fits⟩, fun st answer hanswer => ih answer (h.2 st answer hanswer)⟩
  | inside o data inner next ihinner ih => exact ⟨⟨hl, h.1.fits⟩, ihinner h.2.1, ih h.2.2⟩
  | naming data next ih => exact ⟨⟨hl, h.1.fits⟩, ih h.2⟩
  | enter target data inner next _ ih =>
    exact ⟨⟨hl, trivial⟩, hbody l target data hl (h.1.standsIn hl.stands), ih h.2⟩
  | child c x next _ _ => exact h.elim

theorem placed_condition (htag : l.node.tag = .condition) :
    (scriptCondition body l data).Placed s .node l :=
  filled_condition body body l data ▸ (sited_condition body data htag).placed hbody hl

theorem placed_node (before : Option ConditionResult) :
    (scriptNode body before l data).Placed s .node l :=
  filled_node body body l data before ▸ (sited_node body data before).placed hbody hl

omit hl in
theorem placed_each {caller : Located} {cs : List Located} (hcs : ∀ c ∈ cs, s.Inner c)
    (before : Option ConditionResult) : (scriptEach body data before cs).Placed s .children caller := by
  induction cs generalizing before with
  | nil => trivial
  | cons c rest ih =>
    have hc := hcs c (.head _)
    have hrest := fun before => ih (fun c hc => hcs c (.tail _ hc)) before
    rw [scriptEach]
    split
    · next htag => exact ⟨rfl, hc, placed_condition hbody hc data htag, fun _ => hrest _⟩
    · exact ⟨rfl, hc, placed_node hbody hc data before, fun _ => hrest none⟩

end

section
variable {s : Setting}

theorem placed_children (levels : Nat) {caller l : Located} (hcaller : s.Inner caller)
    (hl : l.StandsIn s.config.root) (data : XPath.NodeRef) :
    (scriptChildren levels l data).Placed s .children caller := by
  induction levels generalizing caller l data with
  | zero => exact ⟨⟨hcaller, trivial⟩, fun _ _ _ => trivial⟩
  | succ levels ih =>
    exact placed_each (fun caller l data hcaller hl => ih hcaller hl data) data
      (fun c hc => .child hl hc) none

/-- Every act of a run is an act of a node below the root, which can act so. -/
theorem placed_config (s : Setting) :
    (scriptChildren maxNesting s.root .root).Placed s .children s.root := by
  have hlevels : maxNesting = 63 + 1 := rfl
  rw [hlevels, scriptChildren]
  exact placed_each (fun _ _ data hcaller hl => placed_children 63 hcaller hl data) .root
    (fun _ hc => .child (Located.standsIn_root s) hc) none

end

/-! ## Failures -/

/-- Something holds of every node that fails and its error, and of the error that ends the run. -/
def Fails (E : Located → MappingError → Prop) (l : Located) {α : Type} (w : Watched α) : Prop :=
  (∀ event ∈ w.events, ∀ f ∈ event.failure?, E f.1 f.2) ∧ ∀ e, w.result = .error e → E l e

namespace Fails

variable {E : Located → MappingError → Prop} {l : Located} {α β : Type}

theorem pure (a : α) (st : RunState) : Fails E l ((pure a : Watch α) st) :=
  ⟨List.forall_mem_nil _, fun _ he => nomatch he⟩

theorem bind {w : Watch α} {k : α → Watch β} {st : RunState} (h : Fails E l (w st))
    (hk : ∀ a, (w st).result = .ok a → Fails E l (k a (w st).state)) : Fails E l ((w >>= k) st) := by
  cases hr : (w st).result with
  | error e =>
    rw [Watch.bind_error hr]
    refine ⟨h.1, fun e' he' => ?_⟩
    cases he'
    exact h.2 e hr
  | ok a =>
    rw [Watch.bind_ok hr]
    refine ⟨fun event hevent => ?_, (hk a hr).2⟩
    rcases List.mem_append.1 hevent with hevent | hevent
    · exact h.1 event hevent
    · exact (hk a hr).1 event hevent

theorem own {m : Run α} {st : RunState} (h : ∀ e, (m.exec st).1 = .error e → E l e) :
    Fails E l (Watch.own l m st) := by
  refine ⟨fun event hevent => ?_, h⟩
  rcases Watch.mem_own hevent with ⟨_, rfl⟩ | ⟨_, rfl⟩ <;> nofun

/-- A failure that is recorded is one of the node; only what ends the run goes on to another. -/
theorem guarded (hfatal : ∀ l e, e.isFatal → E l e) {c : Located}
    {mark : Except MappingError Unit → Event} (hok : (mark (.ok ())).failure? = none)
    (herror : ∀ e, (mark (.error e)).failure? = some (c, e)) {w : Watch α} {st : RunState}
    (h : Fails E c (w st)) : Fails E l (Watch.guarded c mark w st) := by
  have hlast : ∀ {event : Event}, event.failure? = none ∨ (∃ e, event.failure? = some (c, e) ∧ E c e) →
      ∀ ev ∈ (w st).events ++ [event], ∀ f ∈ ev.failure?, E f.1 f.2 := by
    intro event hevent ev hev f hf
    rcases List.mem_append.1 hev with hev | hev
    · exact h.1 ev hev f hf
    · cases List.mem_singleton.1 hev
      rcases hevent with hnone | ⟨e, hsome, he⟩
      · simp [hnone] at hf
      · cases hsome ▸ hf
        exact he
  cases hr : (w st).result with
  | ok a =>
    rw [Watch.guarded_ok c mark hr]
    exact ⟨hlast (.inl hok), nofun⟩
  | error e =>
    have hown := hlast (.inr ⟨e, herror e, h.2 e hr⟩)
    cases he : e.isFatal with
    | true =>
      rw [Watch.guarded_fatal c mark hr he]
      exact ⟨hown, fun e' he' => Except.error.inj he' ▸ hfatal l e he⟩
    | false =>
      rw [Watch.guarded_error c mark hr he]
      exact ⟨hown, nofun⟩

theorem child (hfatal : ∀ l e, e.isFatal → E l e) {c : Located} {w : Watch α} {st : RunState}
    (h : Fails E c (w st)) : Fails E l (Watch.child c w st) := by
  have hrest : Fails E l (Watch.guarded c (.ended c) w st) := guarded hfatal rfl (fun _ => rfl) h
  rw [Watch.child_apply]
  refine ⟨fun event hevent => ?_, hrest.2⟩
  rcases List.mem_cons.1 hevent with rfl | hevent
  · nofun
  · exact hrest.1 event hevent

end Fails

/-- What holds of the errors of acts, and of those that end the run, holds of every failure. -/
theorem Script.Placed.fails {s : Setting} {E : Located → MappingError → Prop}
    (hfatal : ∀ l e, e.isFatal → E l e)
    (hact : ∀ l a data st e, s.Admits l a → ((a.run s l data).exec st).1 = .error e → E l e)
    {α : Type} {x : Script α} {l : Located} {r : Role} (h : x.Placed s r l) (st : RunState) :
    Fails E l (x.watch s l st) := by
  have hown : ∀ {l a} data st, s.Admits l a → Fails E l (Watch.own l (a.run s l data) st) :=
    fun data st hadmits => Fails.own fun e => hact _ _ data st e hadmits
  induction x generalizing l r st with
  | done a => exact .pure a st
  | own a data next ih =>
    exact (hown data st h.1).bind fun answer hanswer => ih answer (h.2 st answer hanswer) _
  | inside o data body next ihbody ih =>
    refine (hown data st h.1).bind fun inner _ => ?_
    have hinside := ihbody h.2.1 { (Watch.own l ((Act.opens o).run s l data) st).state with context := inner }
    exact Fails.bind hinside fun _ _ => ih h.2.2 _
  | naming data next ih =>
    exact (Fails.guarded hfatal rfl (fun _ => rfl) (hown data st h.1)).bind fun _ _ => ih h.2 _
  | enter target data body next ihbody ih =>
    exact (ihbody h.2.1 st).bind fun _ _ => ih h.2.2 _
  | child c x next ihx ih =>
    exact (Fails.child hfatal (ihx h.2.2.1 st)).bind fun result _ => ih result (h.2.2.2 result) _

/-- What holds of the errors of acts, and of those that end a run, holds of every failure in a run. -/
theorem failures_of_acts {s : Setting} {E : Located → MappingError → Prop}
    (hfatal : ∀ l e, e.isFatal → E l e)
    (hact : ∀ l a data st e, s.Admits l a → ((a.run s l data).exec st).1 = .error e → E l e)
    (g : Graph) (taken : Nat) {f : Located × MappingError}
    (hf : f ∈ (trace s g taken).filterMap Event.failure?) : E f.1 f.2 := by
  obtain ⟨event, hevent, hfailure⟩ := List.mem_filterMap.1 hf
  rw [trace, walkConfig, walkChildren_eq] at hevent
  exact ((placed_config s).fails hfatal hact _).1 event hevent f hfailure

end Triplify.Mapping
