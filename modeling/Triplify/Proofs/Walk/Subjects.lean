import Triplify.Proofs.Walk.Moment
/-!
# Subjects at hand

The subjects at hand are a stack: the current one, and those to come back to. A node that opens a
subject puts it on the stack for its children, and after them the subjects below are just as they
were: `nested_config`.
-/

namespace Triplify.Mapping

/-- The subject that the act opens for children, if it succeeds. -/
def Act.opened : (a : Act) → Except MappingError a.Answer → List Context
  | opens _, .ok inner => [inner]
  | _, _ => []

namespace Moment

variable (s : Setting) (m : Moment)

/-- The subjects at hand right before the act, the innermost first. -/
def subjects : List Context := m.start.context :: m.outer

/-- The subjects at hand right after the act. -/
def subjectsAfter : List Context :=
  m.act.opened (m.outcome s) ++ (m.after s).context :: m.outer

end Moment

/-- From moment to moment subjects are only given up, the innermost first. -/
def Nested (s : Setting) (cs : List Context) : List Moment → List Context → Prop
  | [], cs' => cs' <:+ cs
  | m :: rest, cs' => m.subjects <:+ cs ∧ Nested s (m.subjectsAfter s) rest cs'

namespace Nested

variable {s : Setting} {cs cs' cs'' : List Context} {ms ms' : List Moment}

theorem of_left (h : cs' <:+ cs) (h' : Nested s cs' ms cs'') : Nested s cs ms cs'' := by
  cases ms with
  | nil => exact h'.trans h
  | cons m rest => exact ⟨h'.1.trans h, h'.2⟩

theorem append (h : Nested s cs ms cs') (h' : Nested s cs' ms' cs'') :
    Nested s cs (ms ++ ms') cs'' := by
  induction ms generalizing cs with
  | nil => exact h'.of_left h
  | cons m rest ih => exact ⟨h.1, ih h.2⟩

theorem of_right (h : Nested s cs ms cs') (h' : cs'' <:+ cs') : Nested s cs ms cs'' := by
  induction ms generalizing cs with
  | nil => exact List.IsSuffix.trans h' h
  | cons m rest ih => exact ⟨h.1, ih h.2⟩

theorem split {m : Moment} (h : Nested s cs (ms ++ m :: ms') cs') :
    Nested s (m.subjectsAfter s) ms' cs' := by
  induction ms generalizing cs with
  | nil => exact h.2
  | cons _ rest ih => exact ih h.2

section
variable {α β : Type} {w : Watch α} {k : α → Watch β} {outer : List Context}
  {later : α → RunState → List Moment} {st : RunState}

theorem on_result (ms : List Moment)
    (herror : ∀ e, (w st).result = .error e → Nested s cs ms ((w st).state.context :: outer))
    (hok : ∀ a, (w st).result = .ok a →
      Nested s cs (ms ++ later a (w st).state) ((k a (w st).state).state.context :: outer)) :
    Nested s cs (ms ++ (w st).andThen later) (((w >>= k) st).state.context :: outer) := by
  cases hr : (w st).result with
  | error e =>
    rw [Watch.bind_error hr, Watched.andThen, hr, List.append_nil]
    exact herror e hr
  | ok a =>
    rw [Watch.bind_ok hr, Watched.andThen, hr]
    exact hok a hr

theorem andThen (hw : Nested s cs ms ((w st).state.context :: outer))
    (hk : ∀ a st', Nested s (st'.context :: outer) (later a st') ((k a st').state.context :: outer)) :
    Nested s cs (ms ++ (w st).andThen later) (((w >>= k) st).state.context :: outer) :=
  on_result ms (fun _ _ => hw) fun a _ => hw.append (hk a _)

end

end Nested

theorem Watch.guarded_context (l : Located) (mark : Except MappingError Unit → Event) {α : Type}
    (w : Watch α) (st : RunState) :
    (Watch.guarded l mark w st).state.context = (w st).state.context := by
  obtain ⟨d, hd⟩ := Watch.guarded_state l mark w st
  rw [hd]

/-- The subjects at hand are a stack at all moments of a script. -/
theorem Script.nested (s : Setting) {α : Type} (x : Script α) (l : Located) (f : Frame)
    (st : RunState) : Nested s (st.context :: f.outer) (x.moments s f l st)
      ((x.watch s l st).state.context :: f.outer) := by
  have hown : ∀ (m : Moment) (st' : RunState), st'.context = (m.after s).context →
      Nested s m.subjects [m] (st'.context :: m.outer) :=
    fun m st' h => ⟨List.suffix_refl _, h ▸ List.suffix_append _ _⟩
  induction x generalizing l f st with
  | done a => exact List.suffix_refl _
  | own a data next ih =>
    have hact := hown ⟨f, l, a, data, st⟩ (Watch.own l (a.run s l data) st).state rfl
    exact .andThen hact fun answer st' => ih answer l f st'
  | inside o data body next ihbody ih =>
    have hfailed := hown ⟨f, l, .opens o, data, st⟩
      (Watch.own l ((Act.opens o).run s l data) st).state rfl
    refine .on_result [⟨f, l, .opens o, data, st⟩] (fun _ _ => hfailed) fun inner hinner => ?_
    generalize hst : (Watch.own l ((Act.opens o).run s l data) st).state = st'
    have hafter : (Moment.subjectsAfter s ⟨f, l, .opens o, data, st⟩) =
        inner :: st'.context :: f.outer := by
      have houtcome : Moment.outcome s ⟨f, l, .opens o, data, st⟩ = .ok inner := hinner
      rw [Moment.subjectsAfter, houtcome]
      exact congrArg (fun x : RunState => inner :: x.context :: f.outer) hst
    refine ⟨List.suffix_refl _, ?_⟩
    rw [hafter]
    -- The body starts with one subject more, and at its end those below are as they were.
    have hbody := ihbody l (f.inside st'.context) { st' with context := inner }
    refine .andThen (w := Watch.within inner (body.watch s l)) (hbody.of_right ?_) fun _ st'' => ?_
    · exact List.suffix_cons _ _
    · exact ih l f st''
  | naming data next ih =>
    have hact := hown ⟨f, l, .sealing, data, st⟩
      (Watch.naming l (.own l (Act.sealing.run s l data)) st).state
      (Watch.guarded_context l (.named l) _ st)
    exact .andThen hact fun _ st' => ih l f st'
  | enter target data body next ihbody ih =>
    exact Nested.append (hown ⟨f, l, .enter target, data, st⟩ st rfl)
      (.andThen (ihbody l f.deeper st) fun _ st' => ih l f st')
  | child c x next ihx ih =>
    have hchild : Nested s (st.context :: f.outer) (x.moments s f c st)
        ((Watch.child c (x.watch s c) st).state.context :: f.outer) := by
      rw [Watch.child_apply, Watch.guarded_context]
      exact ihx c f st
    exact .andThen hchild fun result st' => ih result l f st'

/-- The subjects at hand are a stack at all moments of a run. -/
theorem nested_config (s : Setting) (g : Graph) (taken : Nat) :
    Nested s [{}] (moments s g taken) [(runConfig s g taken).2.context] := by
  have hrun := Script.nested s (scriptChildren maxNesting s.root .root) s.root {} (initial g taken)
  rw [moments, runConfig_state]
  exact hrun

end Triplify.Mapping
