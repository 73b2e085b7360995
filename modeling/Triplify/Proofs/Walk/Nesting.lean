import Triplify.Proofs.Walk.Moment
import Triplify.Proofs.Walk.Prompt
/-!
# How deep nodes nest

The interpreter counts how many bodies it is inside of, and refuses to go into one more than 64.
Nothing else keeps a named mapping that uses itself from going on. Here that is played with a gauge:
`tallyChildren` goes into whatever a node leads to, for as long as the gauge lets it, and needs fuel
for that. `KeepsGauge` is what holds of every step: it does what the watched run does, and gives the
gauge back as it was.

`nesting_is_bounded`: fuel for 64 levels is enough, whatever nodes lead to.
-/

namespace Triplify.Mapping

/-! ## The gauge -/

/-- How many bodies a run is inside of, and at most was, and the calls that it refused: the nodes that
made them, and the names of those whose children were to be carried out. -/
structure Gauge where
  depth : Nat := 0
  peak : Nat := 0
  refused : List (Located × String) := []

namespace Gauge

/-- Into a body. -/
def up (c : Gauge) : Gauge :=
  { c with depth := c.depth + 1, peak := max c.peak (c.depth + 1) }

/-- Out of a body. -/
def down (c : Gauge) : Gauge := { c with depth := c.depth - 1 }

/-- A call is refused. -/
def refuse (c : Gauge) (caller l : Located) : Gauge :=
  { c with refused := c.refused ++ [(caller, l.node.name)] }

/-- The second gauge is where the first was, has not been too high, and has refused the calls that
events tell of. -/
structure Returns (c : Gauge) (events : List Event) (c' : Gauge) : Prop where
  depth : c'.depth = c.depth
  peak : c'.peak ≤ max c.peak maxNesting
  refused : c'.refused = c.refused ++ events.filterMap Event.refused?

namespace Returns

variable {c c' c'' : Gauge} {es es' : List Event}

theorem silent (h : es.filterMap Event.refused? = []) : c.Returns es c where
  depth := rfl
  peak := Nat.le_max_left _ _
  refused := by rw [h, List.append_nil]

theorem append (h : c.Returns es c') (h' : c'.Returns es' c'') : c.Returns (es ++ es') c'' where
  depth := h'.depth.trans h.depth
  peak := by
    have hpeak := h.peak
    have hpeak' := h'.peak
    omega
  refused := by rw [h'.refused, h.refused, List.filterMap_append, List.append_assoc]

/-- Into a body and out of it again. -/
theorem inside (h : c.up.Returns es c') (hdepth : c.depth < maxNesting) :
    c.Returns es c'.down where
  depth := by
    rw [down, h.depth]
    rfl
  peak := by
    have hpeak : c'.peak ≤ max (max c.peak (c.depth + 1)) maxNesting := h.peak
    show c'.peak ≤ _
    omega
  refused := h.refused

end Returns

end Gauge

/-! ## Runs with a gauge -/

/-- A run with a gauge. There is no outcome if it runs out of fuel. -/
def Tally (α : Type) : Type := Gauge → RunState → Option (Watched α × Gauge)

namespace Tally

variable {α β : Type}

/-- A step that leaves the gauge alone. -/
def apart (w : Watch α) : Tally α := fun c st => some (w st, c)

/-- What comes after a step. -/
def resume (o : Watched α) (c : Gauge) (k : α → Tally β) : Option (Watched β × Gauge) :=
  match o.result with
  | .ok a => (k a c o.state).map fun x => ({ x.1 with events := o.events ++ x.1.events }, x.2)
  | .error e => some (⟨.error e, o.state, o.events⟩, c)

instance : Monad Tally where
  pure a := apart (pure a)
  bind t k := fun c st => (t c st).bind fun x => resume x.1 x.2 k

/-- A body for another subject. -/
def within (inner : Context) (t : Tally α) : Tally α := fun c st =>
  (t c { st with context := inner }).map fun x => (Watch.within inner (fun _ => x.1) st, x.2)

/-- A child node. -/
def child (l : Located) (t : Tally α) : Tally (Except MappingError α) := fun c st =>
  (t c st).map fun x => (Watch.child l (fun _ => x.1) st, x.2)

theorem bind_ok {t : Tally α} {c c' : Gauge} {st : RunState} {o : Watched α} {a : α}
    (h : t c st = some (o, c')) (ho : o.result = .ok a) (k : α → Tally β) :
    (t >>= k) c st =
      (k a c' o.state).map fun x => ({ x.1 with events := o.events ++ x.1.events }, x.2) := by
  show (t c st).bind _ = _
  rw [h, Option.bind_some, resume, ho]

theorem bind_error {t : Tally α} {c c' : Gauge} {st : RunState} {o : Watched α} {e : MappingError}
    (h : t c st = some (o, c')) (ho : o.result = .error e) (k : α → Tally β) :
    (t >>= k) c st = some (⟨.error e, o.state, o.events⟩, c') := by
  show (t c st).bind _ = _
  rw [h, Option.bind_some, resume, ho]

end Tally

/-- Carries out the children of the second node at a data node, on behalf of the first. -/
abbrev TallyBody := Located → Located → XPath.NodeRef → Tally Unit

/-- A script, with a call for each body that it goes into. -/
def Script.tally (s : Setting) (call : TallyBody) : {α : Type} → Located → Script α → Tally α
  | _, _, done a => pure a
  | _, l, own a data next => do
    (next (← Tally.apart (.own l (a.run s l data)))).tally s call l
  | _, l, inside o data body next => do
    let inner ← Tally.apart (.own l ((Act.opens o).run s l data))
    Tally.within inner (body.tally s call l)
    next.tally s call l
  | _, l, naming data next => do
    let _ ← Tally.apart (Watch.naming l (.own l (Act.sealing.run s l data)))
    next.tally s call l
  | _, l, enter target data _ next => do
    call l target data
    next.tally s call l
  | _, l, child c x next => do (next (← Tally.child c (x.tally s call c))).tally s call l

/-- What a call fails with that is refused. -/
def Located.refusal (l : Located) : MappingError := .processing (.tooDeep maxNesting l.node.name)

/-- Carries out the children of a node, unless the gauge is at its end. A call that needs more calls
inside of each other than there is fuel has no outcome. -/
def tallyChildren (s : Setting) : Nat → TallyBody
  | 0, _, _, _ => fun _ _ => none
  | fuel + 1, caller, l, data => fun c st =>
    if maxNesting ≤ c.depth then
      some (Watch.own caller (throw l.refusal) st, c.refuse caller l)
    else
      ((outline l data).tally s (tallyChildren s fuel) caller c.up st).map fun x => (x.1, x.2.down)

section
variable {s : Setting} {fuel : Nat} {caller l : Located} {data : XPath.NodeRef} {c : Gauge}
  {st : RunState}

/-- At the end of the gauge, a call does nothing but fail. -/
theorem tallyChildren_refuses (h : maxNesting ≤ c.depth) :
    tallyChildren s (fuel + 1) caller l data c st =
      some (⟨.error l.refusal, st, [.raised caller l.refusal]⟩, c.refuse caller l) := by
  have hrun : tallyChildren s (fuel + 1) caller l data c st =
    some (Watch.own caller (throw l.refusal) st, c.refuse caller l) := if_pos h
  rw [hrun, Watch.own_throw]

theorem tallyChildren_enters (h : c.depth < maxNesting) :
    tallyChildren s (fuel + 1) caller l data c st =
      ((outline l data).tally s (tallyChildren s fuel) caller c.up st).map fun x =>
        (x.1, x.2.down) :=
  if_neg (Nat.not_le.2 h)

end

/-! ## The gauge comes back -/

/-- From so many bodies deep the run with a gauge does what the watched run does, and the gauge comes
back. -/
def KeepsGauge {α : Type} (depth : Nat) (t : Tally α) (w : Watch α) : Prop :=
  ∀ c st, c.depth = depth → ∃ c', t c st = some (w st, c') ∧ c.Returns (w st).events c'

namespace KeepsGauge

variable {α β : Type} {depth : Nat}

theorem apart {w : Watch α} (h : ∀ st, (w st).events.filterMap Event.refused? = []) :
    KeepsGauge depth (Tally.apart w) w := fun c st _ => ⟨c, rfl, .silent (h st)⟩

theorem bind {t : Tally α} {w : Watch α} {k : α → Tally β} {k' : α → Watch β}
    (h : KeepsGauge depth t w)
    (hk : ∀ a st, (w st).result = .ok a → KeepsGauge depth (k a) (k' a)) :
    KeepsGauge depth (t >>= k) (w >>= k') := by
  intro c st hc
  obtain ⟨c', ht, hreturns⟩ := h c st hc
  cases hr : (w st).result with
  | error e =>
    rw [Watch.bind_error hr, Tally.bind_error ht hr]
    exact ⟨c', rfl, hreturns⟩
  | ok a =>
    obtain ⟨c'', hk', hreturns'⟩ := hk a st hr c' (w st).state (hreturns.depth.trans hc)
    rw [Watch.bind_ok hr, Tally.bind_ok ht hr, hk']
    exact ⟨c'', rfl, hreturns.append hreturns'⟩

theorem within {t : Tally α} {w : Watch α} (inner : Context) (h : KeepsGauge depth t w) :
    KeepsGauge depth (Tally.within inner t) (Watch.within inner w) := by
  intro c st hc
  obtain ⟨c', ht, hreturns⟩ := h c { st with context := inner } hc
  refine ⟨c', ?_, hreturns⟩
  rw [Tally.within, ht]
  rfl

theorem child {t : Tally α} {w : Watch α} (l : Located) (h : KeepsGauge depth t w) :
    KeepsGauge depth (Tally.child l t) (Watch.child l w) := by
  intro c st hc
  obtain ⟨c', ht, hreturns⟩ := h c st hc
  refine ⟨c', ?_, hreturns.depth, hreturns.peak, ?_⟩
  · rw [Tally.child, ht]
    rfl
  · have hend : ∀ r, (Event.ended l r).refused? = none := fun _ => rfl
    rw [hreturns.refused, Watch.child_apply, Watch.guarded_events, List.filterMap_cons_none rfl,
      List.filterMap_append, List.filterMap_cons_none (hend _), List.filterMap_nil, List.append_nil]

end KeepsGauge

/-- Nothing that a node does by itself is refused. -/
theorem Act.refused_eq_nil {s : Setting} {l : Located} {a : Act} (ha : a.Suits l.node.tag)
    (data : XPath.NodeRef) (st : RunState) :
    (Watch.own l (a.run s l data) st).events.filterMap Event.refused? = [] := by
  refine List.filterMap_eq_nil_iff.2 fun event hevent => ?_
  rcases List.mem_append.1 hevent with hstated | hraised
  · obtain ⟨x, -, rfl⟩ := List.mem_map.1 hstated
    rfl
  · cases hr : ((a.run s l data).exec st).1 with
    | ok answer =>
      rw [hr] at hraised
      cases hraised
    | error e =>
      rw [hr] at hraised
      cases List.mem_singleton.1 hraised
      show e.tooDeep?.map _ = none
      rw [Act.tooDeep?_eq_none ha hr]
      rfl

section
variable {s : Setting} {l : Located} {α : Type} {call : TallyBody} {body : ScriptBody} {depth : Nat}
  (hcall : ∀ caller target data,
    KeepsGauge depth (call caller target data) ((body target data).watch s caller))
include hcall

theorem Script.Sited.keepsGauge {x : Script α} (h : x.Sited s l) :
    KeepsGauge depth (x.tally s call l) ((x.filled body).watch s l) := by
  induction x with
  | done a => exact .apart fun _ => rfl
  | own a data next ih =>
    refine .bind (.apart (Act.refused_eq_nil h.1 data)) fun answer st hanswer => ?_
    exact ih answer (h.2 st answer hanswer)
  | inside o data inner next ihinner ih =>
    refine .bind (.apart (Act.refused_eq_nil h.1 data)) fun context _ _ => ?_
    exact .bind ((ihinner h.2.1).within context) fun _ _ _ => ih h.2.2
  | naming data next ih =>
    refine .bind (.apart fun st => ?_) fun _ _ _ => ih h.2
    have hend : ∀ r, (Event.named l r).refused? = none := fun _ => rfl
    rw [Watch.naming, Watch.guarded_events, List.filterMap_append, Act.refused_eq_nil h.1 data,
      List.filterMap_cons_none (hend _)]
    rfl
  | enter target data inner next _ ih =>
    exact .bind (hcall l target data) fun _ _ _ => ih h.2
  | child c x next _ _ => exact h.elim

theorem keepsGauge_each (caller : Located) (data : XPath.NodeRef) (cs : List Located)
    (before : Option ConditionResult) :
    KeepsGauge depth ((scriptEach openBody data before cs).tally s call caller)
      (((scriptEach openBody data before cs).filled body).watch s caller) := by
  induction cs generalizing before with
  | nil => exact .apart fun _ => rfl
  | cons c rest ih =>
    rw [scriptEach]
    split
    · next htag =>
      have hnode := (sited_condition openBody data htag).keepsGauge hcall
      exact .bind (hnode.child c) fun _ _ _ => ih _
    · have hnode := (sited_node openBody (l := c) data before).keepsGauge hcall
      exact .bind (hnode.child c) fun _ _ _ => ih none

end

/-- With fuel for the levels that are left, whatever nodes lead to, a call does what it does with so
many levels left. -/
theorem keepsGauge_children (s : Setting) {levels depth fuel : Nat}
    (hlevels : levels + depth = maxNesting) (hfuel : levels < fuel) (caller l : Located)
    (data : XPath.NodeRef) : KeepsGauge depth (tallyChildren s fuel caller l data)
      ((scriptChildren levels l data).watch s caller) := by
  induction levels generalizing depth fuel caller l data with
  | zero =>
    intro c st hc
    obtain ⟨fuel, rfl⟩ := Nat.exists_eq_succ_of_ne_zero (Nat.ne_of_gt hfuel)
    have hfails : (scriptChildren 0 l data).watch s caller st =
        ⟨.error l.refusal, st, [.raised caller l.refusal]⟩ :=
      (congrFun (bind_pure _) st).trans (Watch.own_throw caller l.refusal st)
    rw [hfails]
    exact ⟨c.refuse caller l, tallyChildren_refuses (by omega), rfl, Nat.le_max_left _ _, rfl⟩
  | succ levels ih =>
    intro c st hc
    obtain ⟨fuel, rfl⟩ := Nat.exists_eq_succ_of_ne_zero (Nat.ne_of_gt (Nat.zero_lt_of_lt hfuel))
    have hbody : ∀ caller l data, KeepsGauge (depth + 1) (tallyChildren s fuel caller l data)
        ((scriptChildren levels l data).watch s caller) := ih (by omega) (by omega)
    have hup : c.up.depth = depth + 1 := congrArg (· + 1) hc
    obtain ⟨c', htally, hreturns⟩ := keepsGauge_each hbody caller data l.children none c.up st hup
    rw [scriptChildren_succ]
    refine ⟨c'.down, ?_, hreturns.inside (by omega)⟩
    rw [tallyChildren_enters (by omega), outline, htally]
    rfl

/-! ## Whole runs -/

/-- A run of the interpreter, with a gauge and with fuel for so many calls inside of each other. -/
def tallyConfig (s : Setting) (g : Graph) (taken : Nat) (fuel : Nat) :
    Option (Watched Unit × Gauge) :=
  tallyChildren s fuel s.root s.root .root {} (initial g taken)

theorem watch_config (s : Setting) (g : Graph) (taken : Nat) :
    (scriptChildren maxNesting s.root .root).watch s s.root (initial g taken) =
      walkConfig s g taken := by
  rw [walkConfig, walkChildren_eq]
  rfl

/-- Nothing but the gauge keeps a run from going on, and that is enough: with fuel for one call more
than there are levels, a run ends as the interpreter says. The gauge never is above the last level, and
after every call, however it ends, it is where it was. A call at the last level does nothing but fail;
each such call is one failure that is recorded, of the node that made it and at once, and that node's
siblings are carried out. -/
theorem nesting_is_bounded (s : Setting) (g : Graph) (taken : Nat) :
    (∀ fuel, maxNesting < fuel → ∃ o c, tallyConfig s g taken fuel = some (o, c) ∧
      (o.result, o.state) = runConfig s g taken ∧ o.events = trace s g taken ∧
      c.depth = 0 ∧ c.peak ≤ maxNesting ∧
      c.refused = (o.events.filterMap Event.recovered?).filterMap overflowOf ∧
      o.state.diagnostics.errors = (o.events.filterMap Event.recovered?).map reportOf) ∧
    (∀ fuel caller l data c st, c.depth ≤ maxNesting → maxNesting < c.depth + fuel →
      ∃ c', tallyChildren s fuel caller l data c st =
          some (walkChildren s (maxNesting - c.depth) caller l data st, c') ∧
        c'.depth = c.depth ∧ c'.peak ≤ max c.peak maxNesting) ∧
    (∀ fuel caller l data c st, c.depth = maxNesting →
      tallyChildren s (fuel + 1) caller l data c st =
        some (⟨.error l.refusal, st, [.raised caller l.refusal]⟩, c.refuse caller l)) ∧
    (∀ before caller l after,
      trace s g taken = before ++ .raised caller (Located.refusal l) :: after →
      ∃ later, after = .ended caller (.error l.refusal) :: later) ∧
    ∀ before l result after next, trace s g taken = before ++ .ended l result :: after →
      Recoverable result → l.sibling? s.config.root = some next →
      ∃ later, after = .started next :: later := by
  have hprompt := trace_prompt s g taken
  refine ⟨?_, ?_, ?_, ?_, ?_⟩
  · intro fuel hfuel
    have hcall : KeepsGauge 0 (tallyChildren s fuel s.root s.root .root)
        ((scriptChildren maxNesting s.root .root).watch s s.root) :=
      keepsGauge_children s (Nat.add_zero maxNesting) hfuel s.root s.root .root
    obtain ⟨c, hrun, hreturns⟩ := hcall {} (initial g taken) rfl
    rw [watch_config] at hrun hreturns
    obtain ⟨hresult, hstate⟩ := walkConfig_erases s g taken
    refine ⟨_, c, hrun, Prod.ext hresult hstate, rfl, hreturns.depth, hreturns.peak, ?_, ?_⟩
    · have hrefused : (trace s g taken).filterMap Event.refused? =
          (trace s g taken).filterMap Event.overflow? := by
        simpa using hprompt.refused_eq
      rw [hreturns.refused, List.filterMap_filterMap]
      exact hrefused
    · rw [hstate]
      exact (runConfig_accounts s g taken).errors
  · intro fuel caller l data c st hdepth hfuel
    have hcall : KeepsGauge c.depth (tallyChildren s fuel caller l data)
        ((scriptChildren (maxNesting - c.depth) l data).watch s caller) :=
      keepsGauge_children s (by omega) (by omega) caller l data
    obtain ⟨c', hrun, hreturns⟩ := hcall c st rfl
    rw [walkChildren_eq]
    exact ⟨c', hrun, hreturns.depth, hreturns.peak⟩
  · intro fuel caller l data c st hdepth
    exact tallyChildren_refuses (by omega)
  · intro before caller l after htrace
    rw [htrace] at hprompt
    exact hprompt.next rfl
  · intro before l result after next htrace hresult hsibling
    rw [htrace] at hprompt
    exact hprompt.next (by rw [Event.next?_ended hresult, hsibling, Option.map_some])

/-- A use of the named mapping that it stands in. -/
def loopUse : Node :=
  .mk .useNamedMapping "usenamedmapping" [("name", "loop")] [] "<usenamedmapping name=\"loop\"/>"

/-- A named mapping that uses itself and then warns. -/
def loop : Setting where
  config :=
    { root := .mk .mapping "config" []
        [.mk .namedMapping "namedmapping" [("name", "loop")]
          [loopUse, .mk .error "error" [("message", "back")] [] "<error message=\"back\"/>"]
          "<namedmapping name=\"loop\"/>", loopUse] "<config/>"
      namespaces := .standard
      warnings := [] }
  transforms := {}
  paths := ⟨⟨#[]⟩, []⟩

/-- The mapping is gone into 63 times. The use that is refused then is the one error, and in each of the
63 the sibling after the use is carried out, and warns. -/
theorem loop_is_cut_off :
    let g : Graph := { namespaces := .standard, base := none, format := .nTriples }
    ∃ o c, tallyConfig loop g 0 (maxNesting + 1) = some (o, c) ∧ c.depth = 0 ∧
      c.peak ≤ maxNesting ∧ c.refused.map (·.2) = ["namedmapping"] ∧
      o.state.diagnostics.errors.length = 1 ∧ o.state.diagnostics.warnings.length = 63 := by
  intro g
  obtain ⟨o, c, hrun, hend, hevents, hdepth, hpeak, hrefused, -⟩ :=
    (nesting_is_bounded loop g 0).1 (maxNesting + 1) (Nat.lt_succ_self _)
  have hstate : o.state = (runConfig loop g 0).2 := congrArg Prod.snd hend
  refine ⟨o, c, hrun, hdepth, hpeak, ?_, ?_, ?_⟩
  · rw [hrefused, hevents]
    decide +kernel
  · rw [hstate]
    decide +kernel
  · rw [hstate]
    decide +kernel

end Triplify.Mapping
