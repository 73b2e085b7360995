import Triplify.Proofs.Walk.Account
/-!
# Runs that differ in reports of nesting

Two runs can do the same and nest equally deep, but through different nodes. Where nodes nest too
deep, each run then reports the node that it has come through; all else stays the same.

`Mirrors` relates the states of two such runs, of which the first is watched, and `Echo` the runs.
There is one lemma for each way in which the interpreter puts runs together.
-/

namespace Triplify.Mapping

/-- Somewhere in a trace nodes nest too deep. -/
def NestsTooDeep (events : List Event) : Prop :=
  ∃ l name, .raised l (.processing (.tooDeep maxNesting name)) ∈ events

theorem NestsTooDeep.mono {es es' : List Event} (hsub : es ⊆ es') (h : NestsTooDeep es) :
    NestsTooDeep es' := by
  obtain ⟨l, name, hmem⟩ := h
  exact ⟨l, name, hsub hmem⟩

/-- The second state is the first, but for the texts of recorded errors if nodes have nested too
deep. -/
structure Mirrors (seen : List Event) (st st' : RunState) : Prop where
  graph : st'.graph = st.graph
  registries : st'.registries = st.registries
  context : st'.context = st.context
  warnings : st'.diagnostics.warnings = st.diagnostics.warnings
  count : st'.diagnostics.errors.length = st.diagnostics.errors.length
  errors : ¬ NestsTooDeep seen → st'.diagnostics.errors = st.diagnostics.errors

/-- Two results are such values, or the same error, or both the error of nodes that nest too deep. -/
inductive SameEnd {α β : Type} (seen : List Event) (such : α → β → Prop) :
    Except MappingError α → Except MappingError β → Prop
  | ok {a : α} {b : β} : such a b → SameEnd seen such (.ok a) (.ok b)
  | error (e : MappingError) : SameEnd seen such (.error e) (.error e)
  | tooDeep (name name' : String) : NestsTooDeep seen →
      SameEnd seen such (.error (.processing (.tooDeep maxNesting name)))
        (.error (.processing (.tooDeep maxNesting name')))

/-- From states that mirror each other the two runs come to such results, and to states that mirror
each other. -/
def Echo {α β : Type} (such : α → β → Prop) (w : Watch α) (m : Run β) : Prop :=
  ∀ seen st st', Mirrors seen st st' →
    SameEnd (seen ++ (w st).events) such (w st).result (m.exec st').1 ∧
      Mirrors (seen ++ (w st).events) (w st).state (m.exec st').2

/-- Both runs have such values, or both have failed. -/
inductive BothOk {α β : Type} (such : α → β → Prop) :
    Except MappingError α → Except MappingError β → Prop
  | ok {a : α} {b : β} : such a b → BothOk such (.ok a) (.ok b)
  | error (e e' : MappingError) : BothOk such (.error e) (.error e')

/-! ## States -/

namespace Mirrors

variable {seen : List Event} {st st' : RunState}

theorem refl (seen : List Event) (st : RunState) : Mirrors seen st st :=
  ⟨rfl, rfl, rfl, rfl, rfl, fun _ => rfl⟩

theorem append (h : Mirrors seen st st') (more : List Event) : Mirrors (seen ++ more) st st' :=
  ⟨h.graph, h.registries, h.context, h.warnings, h.count,
    fun hnot => h.errors fun hdeep => hnot (hdeep.mono (List.subset_append_left ..))⟩

theorem of_context (h : Mirrors seen st st') (c : Context) :
    Mirrors seen { st with context := c } { st' with context := c } :=
  ⟨h.graph, h.registries, rfl, h.warnings, h.count, h.errors⟩

theorem eq_with (h : Mirrors seen st st') : st' = { st with diagnostics := st'.diagnostics } := by
  obtain ⟨hgraph, hregistries, hcontext, -⟩ := h
  cases st'
  cases st
  cases hgraph
  cases hregistries
  cases hcontext
  rfl

/-- Both runs record a failure; the reports may differ if nodes have nested too deep. -/
theorem report (h : Mirrors seen st st') {n n' : Node} {e e' : MappingError}
    (hreport : ¬ NestsTooDeep seen → n'.report e' = n.report e) :
    Mirrors seen { st with diagnostics := n.reportIn e st.diagnostics }
      { st' with diagnostics := n'.reportIn e' st'.diagnostics } := by
  refine ⟨h.graph, h.registries, h.context, h.warnings, ?_, fun hnot => ?_⟩
  · simp [Node.reportIn, h.count]
  · simp only [Node.reportIn]
    rw [h.errors hnot, hreport hnot]

end Mirrors

/-- What a step does has nothing to do with the diagnostics. -/
theorem Step.exec_diagnostics {may : Change → Prop} {α : Type} {m : Run α} (hm : Step may m)
    (st : RunState) (d : Diagnostics) :
    m.exec { st with diagnostics := d } =
      ((m.exec st).1, { (m.exec st).2 with diagnostics := d }) := by
  induction hm generalizing st with
  | given r _ => rw [Run.exec_ofExcept, Run.exec_ofExcept]
  | read k _ ih => exact ih _ _ st
  | call c _ =>
    cases hd : st.graph.deeds st.graph.slots.size c with
    | ok r =>
      rw [Run.exec_call_ok hd]
      exact Run.exec_call_ok hd
    | error e =>
      rw [Run.exec_call_error hd]
      exact Run.exec_call_error hd
  | registries f _ => rfl
  | named _ => rfl
  | @bind _ _ m k _ _ ihm ihk =>
    have hfirst := ihm st
    rcases hr : m.exec st with ⟨e | a, st₁⟩ <;> rw [hr] at hfirst
    · rw [Run.exec_bind_error hfirst, Run.exec_bind_error hr]
    · rw [Run.exec_bind_ok hfirst, Run.exec_bind_ok hr]
      exact ihk a st₁

/-! ## Runs -/

namespace Echo

variable {α β γ δ : Type} {such : α → β → Prop}

theorem pure {a : α} {b : β} (h : such a b) : Echo such (pure a) (pure b) := fun _ _ _ hst =>
  ⟨.ok h, hst.append _⟩

theorem bind_of {such' : γ → δ → Prop} {w : Watch α} {m : Run β} {k : α → Watch γ}
    {k' : β → Run δ} (h : Echo such w m) (hk : ∀ a b, such a b → Echo such' (k a) (k' b)) :
    Echo such' (w >>= k) (m >>= k') := by
  intro seen st st' hst
  obtain ⟨hend, hafter⟩ := h seen st st' hst
  generalize hr : (w st).result = r at hend
  rcases hr' : m.exec st' with ⟨r', st₁'⟩
  rw [hr'] at hend hafter
  cases hend with
  | ok hab =>
    rw [Watch.bind_ok hr, Run.exec_bind_ok hr', ← List.append_assoc]
    exact hk _ _ hab _ _ _ hafter
  | error e =>
    rw [Watch.bind_error hr, Run.exec_bind_error hr']
    exact ⟨.error e, hafter⟩
  | tooDeep name name' hdeep =>
    rw [Watch.bind_error hr, Run.exec_bind_error hr']
    exact ⟨.tooDeep name name' hdeep, hafter⟩

theorem bind {such' : γ → δ → Prop} {w : Watch α} {m : Run α} {k : α → Watch γ} {k' : α → Run δ}
    (h : Echo Eq w m) (hk : ∀ a, Echo such' (k a) (k' a)) : Echo such' (w >>= k) (m >>= k') := by
  refine h.bind_of ?_
  rintro a _ rfl
  exact hk a

/-- The second run comes to a value of its own in the end. -/
theorem returning {w : Watch α} {m : Run β} (h : Echo such w m) (c : γ) :
    Echo (fun _ c' => c' = c) w (m >>= fun _ => Pure.pure c) := by
  intro seen st st' hst
  obtain ⟨hend, hafter⟩ := h seen st st' hst
  generalize hr : (w st).result = r at hend
  rcases hr' : m.exec st' with ⟨r', st₁'⟩
  rw [hr'] at hend hafter
  cases hend with
  | ok _ =>
    rw [Run.exec_bind_ok hr']
    exact ⟨.ok rfl, hafter⟩
  | error e =>
    rw [Run.exec_bind_error hr']
    exact ⟨.error e, hafter⟩
  | tooDeep name name' hdeep =>
    rw [Run.exec_bind_error hr']
    exact ⟨.tooDeep name name' hdeep, hafter⟩

/-- A step that both runs make. -/
theorem own (l : Located) {m : Run α} (hm : Step AnyChange m) : Echo Eq (.own l m) m := by
  intro seen st st' hst
  have hkept := hm.diagnostics st
  rw [hst.eq_with, hm.exec_diagnostics]
  refine ⟨?_, rfl, rfl, rfl, ?_, ?_, fun hnot => ?_⟩
  · cases hr : (m.exec st).1 with
    | ok a =>
      rw [Watch.own, hr]
      exact .ok rfl
    | error e =>
      rw [Watch.own, hr]
      exact .error e
  · rw [Watch.own, hkept]
    exact hst.warnings
  · rw [Watch.own, hkept]
    exact hst.count
  · rw [Watch.own, hkept]
    exact hst.errors fun hdeep => hnot (hdeep.mono (List.subset_append_left ..))

/-- Both runs fail. -/
theorem failed (l : Located) {e : MappingError} (he : e.isFatal = false) :
    Echo (α := α) Eq (.own l (throw e)) (throw e) :=
  own l (.throw he trivial)

/-- Both runs nest too deep. -/
theorem tooDeep (l : Located) (name name' : String) :
    Echo such (.own l (throw (.processing (.tooDeep maxNesting name))))
      (throw (.processing (.tooDeep maxNesting name'))) := by
  intro seen st st' hst
  have hdeep : NestsTooDeep (seen ++ [.raised l (.processing (.tooDeep maxNesting name))]) :=
    ⟨l, name, by simp⟩
  have hevents : (Watch.own l (throw (.processing (.tooDeep maxNesting name)) : Run α) st).events =
      [.raised l (.processing (.tooDeep maxNesting name))] := by
    have hmade : (Watch.own l (throw (.processing (.tooDeep maxNesting name)) : Run α) st).events =
        (st.graph.statements.drop st.graph.statements.length).map (.stated l) ++
          [.raised l (.processing (.tooDeep maxNesting name))] := rfl
    rw [hmade, List.drop_length]
    rfl
  rw [hevents]
  exact ⟨.tooDeep name name' hdeep, hst.append _⟩

theorem within {such : Unit → Unit → Prop} {w : Watch Unit} {m : Run Unit} (inner : Context)
    (h : Echo such w m) : Echo such (.within inner w) (Run.within inner m) := by
  intro seen st st' hst
  obtain ⟨hend, hafter⟩ := h seen _ _ (hst.of_context inner)
  rw [Run.exec_within, hst.context]
  exact ⟨hend, hafter.of_context st.context⟩

/-- Both runs record a failure, and the reports agree unless nodes have nested too deep. -/
theorem guarded {l : Located} {n' : Node} {w : Watch α} {m : Run β} (h : Echo such w m)
    (mark : Except MappingError Unit → Event)
    (hreport : ∀ seen st e, (w st).result = .error e → e.isFatal = false →
      ¬ NestsTooDeep (seen ++ (w st).events) → n'.report e = l.node.report e) :
    Echo (BothOk such) (.guarded l mark w) (Run.guarded n' m) := by
  intro seen st st' hst
  obtain ⟨hend, hafter⟩ := h seen st st' hst
  have hreport := hreport seen st
  generalize hr : (w st).result = r at hend hreport
  rcases hr' : m.exec st' with ⟨r', st₁'⟩
  rw [hr'] at hend hafter
  have hmarked : ∀ event, Mirrors (seen ++ ((w st).events ++ [event])) (w st).state st₁' := by
    intro event
    rw [← List.append_assoc]
    exact hafter.append _
  have hbefore : ∀ event, ¬ NestsTooDeep (seen ++ ((w st).events ++ [event])) →
      ¬ NestsTooDeep (seen ++ (w st).events) := by
    intro event hnot hdeep
    rw [← List.append_assoc] at hnot
    exact hnot (hdeep.mono (List.subset_append_left ..))
  cases hend with
  | ok hab =>
    rw [Watch.guarded_ok l mark hr, Run.exec_guarded_ok n' hr']
    exact ⟨.ok (.ok hab), hmarked _⟩
  | error e =>
    cases he : e.isFatal with
    | true =>
      rw [Watch.guarded_fatal l mark hr he, Run.exec_guarded_fatal n' hr' he]
      exact ⟨.error e, hmarked _⟩
    | false =>
      rw [Watch.guarded_error l mark hr he, Run.exec_guarded_error n' hr' he]
      exact ⟨.ok (.error e e), (hmarked _).report fun hnot => hreport e rfl he (hbefore _ hnot)⟩
  | tooDeep name name' hdeep =>
    rw [Watch.guarded_error l mark hr rfl, Run.exec_guarded_error n' hr' rfl]
    exact ⟨.ok (.error _ _), (hmarked _).report fun hnot => (hbefore _ hnot hdeep).elim⟩

/-- Both runs carry out a child node. -/
theorem child {l : Located} {n' : Node} {w : Watch α} {m : Run β} (h : Echo such w m)
    (hreport : ∀ seen st e, (w st).result = .error e → e.isFatal = false →
      ¬ NestsTooDeep (seen ++ (w st).events) → n'.report e = l.node.report e) :
    Echo (BothOk such) (.child l w) (Run.guarded n' m) := by
  intro seen st st' hst
  obtain ⟨hend, hafter⟩ := h.guarded (.ended l) hreport _ st st' (hst.append [.started l])
  have hevents : seen ++ (Watch.child l w st).events =
      seen ++ [.started l] ++ (Watch.guarded l (.ended l) w st).events := by
    rw [Watch.child_apply, List.append_assoc]
    rfl
  rw [hevents]
  exact ⟨hend, hafter⟩

/-- An `<error>` node warns, or ends, both runs. -/
theorem errorNode {l : Located} (h : l.node.tag = .error) :
    Echo Eq (.own l (runError l.node)) (runError l.node) := by
  intro seen st st' hst
  have hown : (Watch.own l (runError l.node) st).result = l.node.verdict ∧
      (Watch.own l (runError l.node) st).state = ((runError l.node).exec st).2 := by
    rw [Watch.own, exec_runError h]
    exact ⟨rfl, rfl⟩
  rw [hown.1, hown.2, exec_runError h, exec_runError h]
  refine ⟨?_, hst.graph, hst.registries, hst.context, ?_, hst.count, fun hnot => ?_⟩
  · cases l.node.verdict with
    | ok a => exact .ok rfl
    | error e => exact .error e
  · exact congrArg (· ++ l.node.warning?.toList) hst.warnings
  · exact hst.errors fun hdeep => hnot (hdeep.mono (List.subset_append_left ..))

end Echo

end Triplify.Mapping
