import Triplify.Proofs.Walk.Placed
/-!
# Moments of a run

A run comes to one act after the other. Each is a moment: who acts, at which data node and in which
state, how many bodies deep that is, and the subjects to come back to.

`Invariant.config`: what every act keeps holds at every moment of a run, for the current subject and
for those to come back to. `linked_config`: the graph and the registries go from each moment to the
next one unchanged.
-/

namespace Triplify.Mapping

/-- Where a script is played: so many bodies deep, and with these subjects to come back to, the
innermost first. -/
structure Frame where
  depth : Nat := 0
  outer : List Context := []

namespace Frame

/-- Inside of a body. -/
def deeper (f : Frame) : Frame := { f with depth := f.depth + 1 }

/-- Inside of a node that opens a subject. -/
def inside (f : Frame) (c : Context) : Frame := { f with outer := c :: f.outer }

end Frame

/-- An act in a run, and the state right before it. -/
structure Moment extends Frame where
  caller : Located
  act : Act
  data : XPath.NodeRef
  start : RunState

namespace Moment

variable (s : Setting) (m : Moment)

/-- How the act ends. -/
def outcome : Except MappingError m.act.Answer :=
  ((m.act.run s m.caller m.data).exec m.start).1

/-- The state right after the act. -/
def after : RunState := ((m.act.run s m.caller m.data).exec m.start).2

end Moment

/-- What comes after a watched run, if it succeeds. -/
def Watched.andThen {α β : Type} (w : Watched α) (k : α → RunState → List β) : List β :=
  match w.result with
  | .ok a => k a w.state
  | .error _ => []

namespace Script

variable (s : Setting)

/-- The moments of a script, in order. -/
def moments : {α : Type} → Frame → Located → Script α → RunState → List Moment
  | _, _, _, done _, _ => []
  | _, f, l, own a data next, st =>
    ⟨f, l, a, data, st⟩ ::
      (Watch.own l (a.run s l data) st).andThen fun answer st' => (next answer).moments f l st'
  | _, f, l, inside o data body next, st =>
    ⟨f, l, .opens o, data, st⟩ ::
      (Watch.own l ((Act.opens o).run s l data) st).andThen fun inner st' =>
        body.moments (f.inside st'.context) l { st' with context := inner } ++
          (Watch.within inner (body.watch s l) st').andThen fun _ st' => next.moments f l st'
  | _, f, l, naming data next, st =>
    ⟨f, l, .sealing, data, st⟩ ::
      (Watch.naming l (.own l (Act.sealing.run s l data)) st).andThen fun _ st' =>
        next.moments f l st'
  | _, f, l, enter target data body next, st =>
    ⟨f, l, .enter target, data, st⟩ :: (body.moments f.deeper l st ++
      (body.watch s l st).andThen fun _ st' => next.moments f l st')
  | _, f, l, child c x next, st =>
    x.moments f c st ++
      (Watch.child c (x.watch s c) st).andThen fun result st' => (next result).moments f l st'

end Script

theorem Watched.andThen_append {α β γ : Type} {w : Watch α} {st : RunState}
    (first : α → RunState → List γ) (k : α → Watch β) (later : β → RunState → List γ) :
    (w st).andThen (fun a st' => first a st' ++ (k a st').andThen later) =
      (w st).andThen first ++ ((w >>= k) st).andThen later := by
  cases hr : (w st).result with
  | error e => simp only [Watch.bind_error hr, andThen, hr, List.append_nil]
  | ok a => simp only [Watch.bind_ok hr, andThen, hr]

theorem Script.moments_bind {s : Setting} {α β : Type} (x : Script α) (k : α → Script β)
    (f : Frame) (l : Located) (st : RunState) : (x >>= k).moments s f l st =
      x.moments s f l st ++ (x.watch s l st).andThen fun a st' => (k a).moments s f l st' := by
  show (x.bind k).moments s f l st = _
  induction x generalizing f l st with
  | done a => rfl
  | own a data next ih =>
    simp only [bind, moments, watch, ih, List.cons_append]
    rw [Watched.andThen_append]
  | inside o data body next _ ih =>
    simp only [bind, moments, watch, ih, List.cons_append, Watched.andThen_append,
      ← List.append_assoc]
  | naming data next ih =>
    simp only [bind, moments, watch, ih, List.cons_append]
    rw [Watched.andThen_append]
  | enter target data body next _ ih =>
    simp only [bind, moments, watch, ih, List.cons_append, List.append_assoc]
    rw [Watched.andThen_append]
  | child c x next _ ih =>
    simp only [bind, moments, watch, ih, List.append_assoc]
    rw [Watched.andThen_append]

/-- The state in which a run starts. -/
def initial (g : Graph) (taken : Nat) : RunState := { graph := g, registries := { taken := taken } }

/-- The moments of a run, in order. -/
def moments (s : Setting) (g : Graph) (taken : Nat) : List Moment :=
  (scriptChildren maxNesting s.root .root).moments s {} s.root (initial g taken)

theorem runConfig_state (s : Setting) (g : Graph) (taken : Nat) : (runConfig s g taken).2 =
    ((scriptChildren maxNesting s.root .root).watch s s.root (initial g taken)).state := by
  rw [← (walkConfig_erases s g taken).2, walkConfig, walkChildren_eq]
  rfl

/-- A failure is recorded in the diagnostics, or not at all. -/
theorem Watch.guarded_state (l : Located) (mark : Except MappingError Unit → Event) {α : Type}
    (w : Watch α) (st : RunState) :
    ∃ d, (Watch.guarded l mark w st).state = { (w st).state with diagnostics := d } := by
  cases hr : (w st).result with
  | ok a => exact ⟨_, congrArg Watched.state (Watch.guarded_ok l mark hr)⟩
  | error e =>
    cases he : e.isFatal with
    | true => exact ⟨_, congrArg Watched.state (Watch.guarded_fatal l mark hr he)⟩
    | false => exact ⟨_, congrArg Watched.state (Watch.guarded_error l mark hr he)⟩

/-! ## Invariants -/

/-- What every act keeps: for the current subject, and for those to come back to. -/
structure Invariant (s : Setting) (Inv : List Context → RunState → Prop) : Prop where
  record {outer : List Context} {st : RunState} (d : Diagnostics) :
    Inv outer st → Inv outer { st with diagnostics := d }
  act {outer : List Context} {st : RunState} {l : Located} {a : Act} (data : XPath.NodeRef) :
    s.Admits l a → Inv outer st → Inv outer ((a.run s l data).exec st).2
  opened {outer : List Context} {st st' : RunState} {l : Located} {o : Opening} {inner : Context}
    (data : XPath.NodeRef) : s.Admits l (.opens o) → Inv outer st →
    ((Act.opens o).run s l data).exec st = (.ok inner, st') →
    Inv (st'.context :: outer) { st' with context := inner }
  closed {outer : List Context} {st : RunState} {c : Context} :
    Inv (c :: outer) st → Inv outer { st with context := c }

namespace Invariant

variable {s : Setting} {Inv : List Context → RunState → Prop} (h : Invariant s Inv)
include h

theorem guarded {outer : List Context} (l : Located) (mark : Except MappingError Unit → Event)
    {α : Type} {w : Watch α} {st : RunState} (hst : Inv outer (w st).state) :
    Inv outer (Watch.guarded l mark w st).state := by
  obtain ⟨d, hd⟩ := Watch.guarded_state l mark w st
  rw [hd]
  exact h.record d hst

end Invariant

/-- The invariant holds at the moments and, with the first subjects to come back to, in the state. -/
structure Kept (s : Setting) (Inv : List Context → RunState → Prop) (outer : List Context)
    (ms : List Moment) (st : RunState) : Prop where
  moments : ∀ m ∈ ms, s.Admits m.caller m.act ∧ Inv m.outer m.start
  state : Inv outer st

namespace Kept

variable {s : Setting} {Inv : List Context → RunState → Prop} {outer : List Context}
  {ms : List Moment} {st : RunState}

theorem cons {m : Moment} (hm : s.Admits m.caller m.act) (hst : Inv m.outer m.start)
    (h : Kept s Inv outer ms st) : Kept s Inv outer (m :: ms) st :=
  ⟨List.forall_mem_cons.2 ⟨⟨hm, hst⟩, h.moments⟩, h.state⟩

theorem append {inner : List Context} {ms' : List Moment} {st' : RunState}
    (h : Kept s Inv inner ms st) (h' : Kept s Inv outer ms' st') :
    Kept s Inv outer (ms ++ ms') st' :=
  ⟨List.forall_mem_append.2 ⟨h.moments, h'.moments⟩, h'.state⟩

/-- A run that goes on after another one. -/
theorem andThen {α β : Type} {w : Watch α} {k : α → Watch β} {later : α → RunState → List Moment}
    (hw : Inv outer (w st).state)
    (hk : ∀ a st', w st = ⟨.ok a, st', (w st).events⟩ → Inv outer st' →
      Kept s Inv outer (later a st') (k a st').state) :
    Kept s Inv outer ((w st).andThen later) ((w >>= k) st).state := by
  cases hr : (w st).result with
  | error e =>
    rw [Watch.bind_error hr, Watched.andThen, hr]
    exact ⟨List.forall_mem_nil _, hw⟩
  | ok a =>
    rw [Watch.bind_ok hr, Watched.andThen, hr]
    exact hk a _ (by rw [← hr]) hw

end Kept

namespace Invariant

variable {s : Setting} {Inv : List Context → RunState → Prop} (h : Invariant s Inv)
include h

/-- An invariant holds at every moment of a script, and at the end. -/
theorem holds {α : Type} {x : Script α} {l : Located} {r : Role} (hx : x.Placed s r l) (f : Frame)
    (st : RunState) (hst : Inv f.outer st) :
    Kept s Inv f.outer (x.moments s f l st) (x.watch s l st).state := by
  induction x generalizing l r f st with
  | done a => exact ⟨List.forall_mem_nil _, hst⟩
  | own a data next ih =>
    refine .cons hx.1 hst (.andThen (h.act data hx.1 hst) fun answer st' hrun hst' => ?_)
    exact ih answer (hx.2 st answer (congrArg Watched.result hrun)) f st' hst'
  | inside o data body next ihbody ih =>
    refine .cons hx.1 hst (.andThen (h.act data hx.1 hst) fun inner st' hrun hst' => ?_)
    have hopened : Inv (st'.context :: f.outer) { st' with context := inner } :=
      h.opened data hx.1 hst
        (Prod.ext (congrArg Watched.result hrun) (congrArg Watched.state hrun))
    have hbody := ihbody hx.2.1 (f.inside st'.context) { st' with context := inner } hopened
    refine hbody.append (.andThen (w := Watch.within inner (body.watch s l)) ?_ fun _ st'' _ hst'' => ?_)
    · exact h.closed hbody.state
    · exact ih hx.2.2 f st'' hst''
  | naming data next ih =>
    refine .cons hx.1 hst (.andThen (h.guarded l _ (h.act data hx.1 hst)) fun _ st' _ hst' => ?_)
    exact ih hx.2 f st' hst'
  | enter target data body next ihbody ih =>
    have hbody := ihbody hx.2.1 f.deeper st hst
    refine .cons hx.1 hst (hbody.append (.andThen hbody.state fun _ st' _ hst' => ?_))
    exact ih hx.2.2 f st' hst'
  | child c x next ihx ih =>
    have hchild := ihx hx.2.2.1 f st hst
    refine hchild.append (.andThen (h.guarded c (.ended c) hchild.state) fun result st' _ hst' => ?_)
    exact ih result (hx.2.2.2 result) f st' hst'

/-- An invariant that holds at the start holds at every moment of a run, and at the end. -/
theorem config (g : Graph) (taken : Nat) (hst : Inv [] (initial g taken)) :
    Kept s Inv [] (moments s g taken) (runConfig s g taken).2 := by
  have hrun := h.holds (placed_config s) {} (initial g taken) hst
  rw [moments, runConfig_state]
  exact hrun

end Invariant

/-- The acts of a run are those of nodes that can act so. -/
theorem moments_admitted (s : Setting) (g : Graph) (taken : Nat) :
    ∀ m ∈ moments s g taken, s.Admits m.caller m.act := by
  have hall : Invariant s fun _ _ => True :=
    ⟨fun _ _ => trivial, fun _ _ _ => trivial, fun _ _ _ _ => trivial, fun _ => trivial⟩
  exact fun m hm => ((hall.config g taken trivial).moments m hm).1

/-! ## From moment to moment -/

/-- Two states with one graph and the same registries. -/
structure Alike (st st' : RunState) : Prop where
  graph : st'.graph = st.graph
  registries : st'.registries = st.registries

/-- The moments lead from one state to another, as far as the graph and the registries go. -/
def Linked (s : Setting) (st : RunState) : List Moment → RunState → Prop
  | [], st' => Alike st st'
  | m :: rest, st' => Alike st m.start ∧ Linked s (m.after s) rest st'

namespace Alike

variable {a b c : RunState}

theorem refl (a : RunState) : Alike a a := ⟨rfl, rfl⟩

theorem trans (h : Alike a b) (h' : Alike b c) : Alike a c :=
  ⟨h'.graph.trans h.graph, h'.registries.trans h.registries⟩

end Alike

namespace Linked

variable {s : Setting} {a b c : RunState} {ms ms' : List Moment}

theorem of_left (h : Alike a b) (h' : Linked s b ms c) : Linked s a ms c := by
  cases ms with
  | nil => exact h.trans h'
  | cons m rest => exact ⟨h.trans h'.1, h'.2⟩

theorem append (h : Linked s a ms b) (h' : Linked s b ms' c) : Linked s a (ms ++ ms') c := by
  induction ms generalizing a with
  | nil => exact h'.of_left h
  | cons m rest ih => exact ⟨h.1, ih h.2⟩

theorem of_right (h : Linked s a ms b) (h' : Alike b c) : Linked s a ms c := by
  induction ms generalizing a with
  | nil => exact Alike.trans h h'
  | cons m rest ih => exact ⟨h.1, ih h.2⟩

/-- What comes before a moment leads to it, and what comes after leads on. -/
theorem split {m : Moment} (h : Linked s a (ms ++ m :: ms') c) :
    Linked s a ms m.start ∧ Linked s (m.after s) ms' c := by
  induction ms generalizing a with
  | nil => exact h
  | cons m' rest ih => exact ⟨⟨h.1, (ih h.2).1⟩, (ih h.2).2⟩

theorem andThen {α β : Type} {w : Watch α} {k : α → Watch β}
    {later : α → RunState → List Moment} {st : RunState} (hw : Linked s a ms (w st).state)
    (hk : ∀ a st', Linked s st' (later a st') (k a st').state) :
    Linked s a (ms ++ (w st).andThen later) ((w >>= k) st).state := by
  cases hr : (w st).result with
  | error e =>
    rw [Watch.bind_error hr, Watched.andThen, hr]
    exact hw.append (.refl _)
  | ok a =>
    rw [Watch.bind_ok hr, Watched.andThen, hr]
    exact hw.append (hk a _)

end Linked

theorem Watch.guarded_alike (l : Located) (mark : Except MappingError Unit → Event) {α : Type}
    (w : Watch α) (st : RunState) : Alike (w st).state (Watch.guarded l mark w st).state := by
  obtain ⟨d, hd⟩ := Watch.guarded_state l mark w st
  rw [hd]
  exact ⟨rfl, rfl⟩

/-- The moments of a script lead from its start to its end. -/
theorem Script.linked (s : Setting) {α : Type} (x : Script α) (l : Located) (f : Frame)
    (st : RunState) : Linked s st (x.moments s f l st) (x.watch s l st).state := by
  have hown : ∀ {m : Moment} {st' : RunState}, Alike (m.after s) st' → Linked s m.start [m] st' :=
    fun h => ⟨.refl _, h⟩
  induction x generalizing l f st with
  | done a => exact .refl st
  | own a data next ih =>
    exact .andThen (hown (m := ⟨f, l, a, data, st⟩) (.refl _)) fun answer st' => ih answer l f st'
  | inside o data body next ihbody ih =>
    refine .andThen (hown (m := ⟨f, l, .opens o, data, st⟩) (.refl _)) fun inner st' => ?_
    have hbody := ihbody l (f.inside st'.context) { st' with context := inner }
    refine .andThen (w := Watch.within inner (body.watch s l)) ?_ fun _ st'' => ih l f st''
    have hstart : Alike st' { st' with context := inner } := ⟨rfl, rfl⟩
    exact (hbody.of_left hstart).of_right ⟨rfl, rfl⟩
  | naming data next ih =>
    refine .andThen (hown (m := ⟨f, l, .sealing, data, st⟩) ?_) fun _ st' => ih l f st'
    exact Watch.guarded_alike l (.named l) (.own l (Act.sealing.run s l data)) st
  | enter target data body next ihbody ih =>
    exact Linked.append (hown (m := ⟨f, l, .enter target, data, st⟩) (.refl _))
      (.andThen (ihbody l f.deeper st) fun _ st' => ih l f st')
  | child c x next ihx ih =>
    refine .andThen ((ihx c f st).of_right ?_) fun result st' => ih result l f st'
    exact Watch.guarded_alike c (.ended c) _ st

/-- The moments of a run lead from its start to its end. -/
theorem linked_config (s : Setting) (g : Graph) (taken : Nat) :
    Linked s (initial g taken) (moments s g taken) (runConfig s g taken).2 := by
  have hrun := Script.linked s (scriptChildren maxNesting s.root .root) s.root {} (initial g taken)
  rw [moments, runConfig_state]
  exact hrun

/-! ## Failures at moments -/

/-- What holds of the errors at the moments of a script, and of those that end a run, holds of all its
failures. -/
theorem Script.fails {s : Setting} {E : MappingError → Prop} (hfatal : ∀ e, e.isFatal → E e)
    {α : Type} (x : Script α) (l : Located) (f : Frame) (st : RunState)
    (h : ∀ m ∈ x.moments s f l st, ∀ e, m.outcome s = .error e → E e) :
    Fails (fun _ => E) l (x.watch s l st) := by
  have hlater : ∀ {β γ : Type} {w : Watch β} {a : β} {st : RunState}
      {later : β → RunState → List γ} {P : γ → Prop}, (w st).result = .ok a →
      (∀ m ∈ (w st).andThen later, P m) → ∀ m ∈ later a (w st).state, P m := by
    intro β γ w a st later P hr hall
    rwa [Watched.andThen, hr] at hall
  induction x generalizing l f st with
  | done a => exact .pure a st
  | own a data next ih =>
    obtain ⟨hact, hrest⟩ := List.forall_mem_cons.1 h
    exact Fails.bind (Fails.own hact) fun answer hr => ih answer l f _ (hlater hr hrest)
  | inside o data body next ihbody ih =>
    obtain ⟨hact, hrest⟩ := List.forall_mem_cons.1 h
    refine Fails.bind (Fails.own hact) fun inner hr => ?_
    obtain ⟨hbody, hnext⟩ := List.forall_mem_append.1 (hlater hr hrest)
    refine Fails.bind (w := Watch.within inner (body.watch s l)) ?_ fun _ hr => ?_
    · exact ihbody l (f.inside _) _ hbody
    · exact ih l f _ (hlater hr hnext)
  | naming data next ih =>
    obtain ⟨hact, hrest⟩ := List.forall_mem_cons.1 h
    refine Fails.bind (Fails.guarded (fun _ => hfatal) rfl (fun _ => rfl) (Fails.own hact)) ?_
    exact fun _ hr => ih l f _ (hlater hr hrest)
  | enter target data body next ihbody ih =>
    obtain ⟨hbody, hnext⟩ := List.forall_mem_append.1 (List.forall_mem_cons.1 h).2
    exact Fails.bind (ihbody l f.deeper st hbody) fun _ hr => ih l f _ (hlater hr hnext)
  | child c x next ihx ih =>
    obtain ⟨hchild, hnext⟩ := List.forall_mem_append.1 h
    refine Fails.bind (Fails.child (fun _ => hfatal) (ihx c f st hchild)) fun result hr => ?_
    exact ih result l f _ (hlater hr hnext)

/-- What holds of the errors at the moments of a run, and of those that end a run, holds of every
failure in the run. -/
theorem failures_of_moments {s : Setting} {E : MappingError → Prop}
    (hfatal : ∀ e, e.isFatal → E e) {g : Graph} {taken : Nat}
    (h : ∀ m ∈ moments s g taken, ∀ e, m.outcome s = .error e → E e) :
    ∀ f ∈ (trace s g taken).filterMap Event.failure?, E f.2 := by
  intro f hf
  obtain ⟨event, hevent, hfailure⟩ := List.mem_filterMap.1 hf
  rw [trace, walkConfig, walkChildren_eq] at hevent
  have hfails := Script.fails hfatal (scriptChildren maxNesting s.root .root) s.root {} _ h
  exact hfails.1 event hevent f hfailure

end Triplify.Mapping
