import Triplify.Proofs.Walk.Account
import Triplify.Proofs.Walk.Follow
import Triplify.Proofs.Walk.Without
/-!
# Removing a node

A node that makes statements does not disturb the others. A run over a configuration without it has
the same result, and the statements and errors of the run over the whole configuration but for those
of that node: `runConfig_without`.

`Tracked.relation` is the simulation of the two runs. What the removed node does is `Tracked.skip`.
-/

namespace Triplify.Mapping

/-- The node that makes a statement. -/
def Event.maker? : Event → Option Located
  | .stated l _ => some l
  | _ => none

/-- The nodes that made the statements of a trace, in order. -/
def makers (events : List Event) : List Located := events.filterMap Event.maker?

/-- The nodes whose failures were recorded, in order. -/
def failers (events : List Event) : List Located := (events.filterMap Event.recovered?).map (·.1)

theorem makers_append (es es' : List Event) : makers (es ++ es') = makers es ++ makers es' :=
  List.filterMap_append

theorem failers_append (es es' : List Event) : failers (es ++ es') = failers es ++ failers es' := by
  rw [failers, List.filterMap_append, List.map_append]
  rfl

theorem makers_started (l : Located) (es : List Event) : makers (.started l :: es) = makers es := rfl

theorem failers_started (l : Located) (es : List Event) : failers (.started l :: es) = failers es :=
  rfl

theorem failers_mark {event : Event} {l : Located} {e : MappingError}
    (h : event.failure? = some (l, e)) (he : e.isFatal = false) : failers [event] = [l] := by
  rw [failers, List.filterMap_cons_some (Event.recovered?_eq h he)]
  rfl

theorem makers_own (l : Located) {α : Type} (m : Run α) (st : RunState) :
    makers (Watch.own l m st).events =
      .replicate ((m.exec st).2.graph.statements.length - st.graph.statements.length) l := by
  have hmaker : ∀ made : List GraphStatement,
      made.filterMap (fun s => (Event.stated l s).maker?) = .replicate made.length l := by
    intro made
    induction made with
    | nil => rfl
    | cons s made ih => exact congrArg (l :: ·) ih
  rw [makers, Watch.filterMap_own (fun _ => rfl), hmaker, List.length_drop]

theorem failers_own (l : Located) {α : Type} (m : Run α) (st : RunState) :
    failers (Watch.own l m st).events = [] := by
  rw [failers, Watch.filterMap_own_eq_nil (fun _ => rfl) fun _ => rfl]
  rfl

/-! ## The simulation -/

/-- A run over the smaller configuration ends like one over the larger, in the states to expect after
its events. -/
structure Tracked (kept : Located → Bool) (made : List (Option Located)) (failed : List Located)
    {α : Type} (o : Watched α) (r : Except MappingError α × RunState) : Prop where
  result : r.1 = o.result
  state : Follows kept (made ++ (makers o.events).map some) (failed ++ failers o.events) o.state r.2

namespace Tracked

variable {kept : Located → Bool} {made : List (Option Located)} {failed : List Located}
  {st st' : RunState} {α β : Type} {l : Located}

theorem pure (h : Follows kept made failed st st') (a : α) :
    Tracked kept made failed ((pure a : Watch α) st) ((pure a : Run α).exec st') :=
  ⟨rfl, by simpa [Watch.pure_apply, Run.exec_pure, makers, failers] using h⟩

theorem bind {w : Watch α} {m : Run α} {k : α → Watch β} {k' : α → Run β}
    (h : Tracked kept made failed (w st) (m.exec st'))
    (hk : ∀ a made failed st st', Follows kept made failed st st' →
      Tracked kept made failed (k a st) ((k' a).exec st')) :
    Tracked kept made failed ((w >>= k) st) ((m >>= k').exec st') := by
  obtain ⟨hresult, hstate⟩ := h
  rcases hr : m.exec st' with ⟨e | a, st₁'⟩ <;> rw [hr] at hresult hstate
  · rw [Watch.bind_error hresult.symm, Run.exec_bind_error hr]
    exact ⟨rfl, hstate⟩
  · obtain ⟨hlast, hafter⟩ := hk a _ _ _ _ hstate
    rw [Watch.bind_ok hresult.symm, Run.exec_bind_ok hr]
    refine ⟨hlast, ?_⟩
    rw [makers_append, failers_append, List.map_append, ← List.append_assoc, ← List.append_assoc]
    exact hafter

theorem makers_eq {m : Run α} {n : Nat} {st₁' : RunState} (h : Follows kept made failed st st')
    (h' : Follows kept (made ++ .replicate n (some l)) failed (m.exec st).2 st₁') :
    makers (Watch.own l m st).events = .replicate n l := by
  have hbefore := h.graph.length
  have hafter := h'.graph.length
  rw [List.length_append, List.length_replicate] at hafter
  have hn : (m.exec st).2.graph.statements.length - st.graph.statements.length = n := by
    rw [Graph.statements, Graph.statements, List.length_map, List.length_map]
    omega
  rw [makers_own, hn]

/-- Steps that both runs make. -/
theorem own (hl : kept l) {m : Run α} (hm : Step AnyChange m) (h : Follows kept made failed st st') :
    Tracked kept made failed (Watch.own l m st) (m.exec st') := by
  obtain ⟨hresult, n, hstate⟩ := hm.follows hl h
  refine ⟨hresult, ?_⟩
  rw [makers_eq h hstate, failers_own, List.map_replicate, List.append_nil]
  exact hstate

/-- Both runs record the failure of a node that is kept. -/
theorem guarded (hl : kept l) {n' : Node} (hn : SameHead n' l.node) {w : Watch α} {m : Run α}
    {mark : Except MappingError Unit → Event} (hok : (mark (.ok ())).failure? = none)
    (herror : ∀ e, (mark (.error e)).failure? = some (l, e)) (hmaker : ∀ r, (mark r).maker? = none)
    (h : Tracked kept made failed (w st) (m.exec st')) :
    Tracked kept made failed (Watch.guarded l mark w st) ((Run.guarded n' m).exec st') := by
  obtain ⟨hresult, hstate⟩ := h
  have hmakers : ∀ r, makers ((w st).events ++ [mark r]) = makers (w st).events := by
    intro r
    simp [makers, hmaker]
  rcases hr : m.exec st' with ⟨e | a, st₁'⟩ <;> rw [hr] at hresult hstate
  · cases he : e.isFatal with
    | true =>
      have hfailers : failers ((w st).events ++ [mark (.error e)]) = failers (w st).events := by
        simp [failers, Event.recovered?, herror, he]
      rw [Run.exec_guarded_fatal n' hr he, Watch.guarded_fatal l mark hresult.symm he]
      refine ⟨rfl, ?_⟩
      rw [hmakers, hfailers]
      exact hstate
    | false =>
      have hfailers : failers ((w st).events ++ [mark (.error e)]) =
          failers (w st).events ++ [l] := by
        rw [failers_append, failers_mark (herror e) he]
      rw [Run.exec_guarded_error n' hr he, Watch.guarded_error l mark hresult.symm he]
      refine ⟨rfl, ?_⟩
      rw [hmakers, hfailers, ← List.append_assoc]
      exact hstate.report hl hn e
  · have hfailers : failers ((w st).events ++ [mark (.ok ())]) = failers (w st).events := by
      simp [failers, Event.recovered?, hok]
    rw [Run.exec_guarded_ok n' hr, Watch.guarded_ok l mark hresult.symm]
    refine ⟨rfl, ?_⟩
    rw [hmakers, hfailers]
    exact hstate

theorem child (hl : kept l) {n' : Node} (hn : SameHead n' l.node) {w : Watch α} {m : Run α}
    (h : Tracked kept made failed (w st) (m.exec st')) :
    Tracked kept made failed (Watch.child l w st) ((Run.guarded n' m).exec st') := by
  have hguarded : Tracked kept made failed (Watch.guarded l (.ended l) w st)
      ((Run.guarded n' m).exec st') := h.guarded hl hn rfl (fun _ => rfl) fun _ => rfl
  exact ⟨hguarded.result, hguarded.state⟩

/-- Both runs give the warning of an `<error>` node. -/
theorem errorNode (htag : l.node.tag = .error) (h : Follows kept made failed st st') :
    Tracked kept made failed (Watch.own l (runError l.node) st) ((runError l.node).exec st') := by
  refine ⟨by rw [Watch.own, exec_runError htag, exec_runError htag], ?_⟩
  rw [makers_own, failers_own]
  simp only [Watch.own, exec_runError htag, Nat.sub_self, List.replicate_zero, List.map_nil,
    List.append_nil]
  exact ⟨h.graph, h.registries, h.context, h.length, h.errors, by rw [h.warnings]⟩

/-- What a node does that is left out makes no difference, and its failure is recorded. -/
theorem hiddenChild (hl : kept l = false) {m : Run Unit} (hm : Step StatementOnly m)
    (h : Follows kept made failed st st') :
    ∃ r, (Watch.child l (.own l m) st).result = .ok r ∧
      Follows kept (made ++ (makers (Watch.child l (.own l m) st).events).map some)
        (failed ++ failers (Watch.child l (.own l m) st).events)
        (Watch.child l (.own l m) st).state st' := by
  obtain ⟨n, hstate⟩ := hm.hidden hl h
  have hmakers := makers_eq h hstate
  have hfailers := failers_own l m st
  have hrec := hm.recoverable st
  have hevents : ∀ r, makers (.started l :: ((Watch.own l m st).events ++ [.ended l r])) =
      makers (Watch.own l m st).events := by
    intro r
    rw [makers_started, makers_append]
    exact List.append_nil _
  have hown : (Watch.own l m st).state = (m.exec st).2 := rfl
  rw [Watch.child_apply]
  cases hr : (Watch.own l m st).result with
  | ok a =>
    rw [Watch.guarded_ok l (.ended l) hr]
    refine ⟨.ok a, rfl, ?_⟩
    have hend : failers (.started l :: ((Watch.own l m st).events ++ [.ended l (.ok ())])) =
        failers (Watch.own l m st).events := by
      rw [failers_started, failers_append]
      exact List.append_nil _
    simp only [hevents, hend, hmakers, hfailers, hown, List.map_replicate, List.append_nil]
    exact hstate
  | error e =>
    have he : e.isFatal = false := hrec e hr
    rw [Watch.guarded_error l (.ended l) hr he]
    refine ⟨.error e, rfl, ?_⟩
    have hend : failers (.started l :: ((Watch.own l m st).events ++ [.ended l (.error e)])) =
        failers (Watch.own l m st).events ++ [l] := by
      rw [failers_started, failers_append, failers_mark rfl he]
    simp only [hevents, hend, hmakers, hfailers, hown, List.map_replicate, List.nil_append]
    exact hstate.hideReport hl e

/-- The first run carries out a node that is left out in the second. -/
theorem skip (hl : kept l = false) {m : Run Unit} (hm : Step StatementOnly m) {w : Watch α}
    {m' : Run α} (h : Follows kept made failed st st')
    (hw : ∀ made failed st st', Follows kept made failed st st' →
      Tracked kept made failed (w st) (m'.exec st')) :
    Tracked kept made failed ((Watch.child l (.own l m) >>= fun _ => w) st) (m'.exec st') := by
  obtain ⟨r, hr, hstate⟩ := hiddenChild hl hm h
  obtain ⟨hlast, hafter⟩ := hw _ _ _ _ hstate
  rw [Watch.bind_ok hr]
  refine ⟨hlast, ?_⟩
  rw [makers_append, failers_append, List.map_append, ← List.append_assoc, ← List.append_assoc]
  exact hafter

/-- The two runs stay related through the whole interpreter. -/
theorem relation {s s' : Setting} (i : Image s s') :
    Relation i fun _ _ w m => ∀ made failed st st', Follows i.kept made failed st st' →
      Tracked i.kept made failed (w st) (m.exec st') where
  pure _ _ a _ _ _ _ h := pure h a
  bind _ _ _ _ _ _ _ hw hk made failed st st' h := bind (hw made failed st st' h) hk
  own hl hm _ _ _ _ h := own hl hm h
  within _ inner _ _ hw made failed st st' h := by
    have inside := hw _ _ _ _ (h.of_context inner)
    -- Both come back to the subject from before, and that is the same one.
    rw [Run.exec_within]
    exact ⟨inside.result, inside.state.graph, inside.state.registries, h.context,
      inside.state.length, inside.state.errors, inside.state.warnings⟩
  child _ l _ _ _ hl _ hw made failed st st' h := child hl (i.head l) (hw made failed st st' h)
  report _ l hl htag made failed st st' h := child hl (i.head l) (errorNode htag h)
  naming hl hm _ _ _ _ h :=
    guarded hl (i.head _) rfl (fun _ => rfl) (fun _ => rfl) (own hl hm h)
  skip _ _ _ _ _ hl hm hw _ _ _ _ h := skip hl hm h hw

end Tracked

/-! ## The whole run -/

theorem Graph.quads_of_sameBut {kept : Located → Bool} {made : List (Option Located)} {g g' : Graph}
    (h : SameBut kept made g g') : g'.quads = keepBy (Option.all kept) made g.quads := by
  have hquad : ∀ e : GraphStatement × Option String, g'.quad e.2 e.1 = g.quad e.2 e.1 := by
    rintro ⟨⟨subject, predicate, object⟩, name⟩
    cases object <;> simp only [Graph.quad, Graph.triple, Graph.subject, Graph.term, h.slots]
  rw [Graph.quads_eq, Graph.quads_eq, h.emissions, ← keepBy_map]
  exact congrArg _ (List.map_congr_left fun e _ => hquad e)

/-- The nodes that made the statements of a run, in order. No node made those that were there from
the start. -/
def madeBy (g : Graph) (events : List Event) : List (Option Located) :=
  .replicate g.statements.length none ++ (makers events).map some

/-- Removing a node that makes statements, and that does not stand between an `if` and an `else`,
takes away its own statements and its own failures, wherever it stands and however often it is
carried out. All others stay as they are: in the same order, about the same subjects, with the same
names and in the same graphs. The run ends alike. -/
theorem runConfig_without (s : Setting) (g : Graph) (taken : Nat) {p : Place} {k : Nat} {n : Node}
    (hn : s.config.root.at? (p ++ [k]) = some n) (htag : n.tag = .triple ∨ n.tag = .type)
    (hfree : ¬ s.config.root.BetweenIfAndElse p k) :
    let all := runConfig s g taken
    let rest := runConfig (s.without p k) g taken
    let events := trace s g taken
    let failures := events.filterMap Event.recovered?
    rest.1 = all.1 ∧
      rest.2.graph.slots = all.2.graph.slots ∧
      rest.2.graph.format = all.2.graph.format ∧
      (all.2.graph.statements = g.statements ++ events.filterMap Event.statement? ∧
        rest.2.graph.emissions =
          keepBy (Option.all (·.remains p k)) (madeBy g events) all.2.graph.emissions ∧
        rest.2.graph.quads =
          keepBy (Option.all (·.remains p k)) (madeBy g events) all.2.graph.quads) ∧
      (all.2.diagnostics.errors = failures.map reportOf ∧
        rest.2.diagnostics.errors =
          (failures.filter fun f => f.1.remains p k).map reportOf) ∧
      rest.2.diagnostics.warnings = all.2.diagnostics.warnings ∧
      rest.2.registries = all.2.registries := by
  have hlength : g.statements.length = g.emissions.length := List.length_map _
  have hstart : SameBut (·.remains p k) (.replicate g.statements.length none) g g :=
    ⟨rfl, rfl, rfl, by rw [List.length_replicate, hlength],
      by rw [hlength, keepBy_replicate rfl]⟩
  have htracked := (Tracked.relation (.without s hn htag hfree)).config _ []
    { graph := g, registries := { taken := taken } } { graph := g, registries := { taken := taken } }
    ⟨hstart, rfl, rfl, rfl, rfl, rfl⟩
  obtain ⟨hresult, hstate⟩ := walkConfig_erases s g taken
  have haccounts := runConfig_accounts s g taken
  -- What is watched is what is run, so the simulation is about the two runs.
  have hfollows : Follows (·.remains p k) (madeBy g (trace s g taken)) (failers (trace s g taken))
      (runConfig s g taken).2 (runConfig (s.without p k) g taken).2 := hstate ▸ htracked.state
  have hgraph := hfollows.graph
  refine ⟨htracked.result.trans hresult, hgraph.slots, hgraph.format,
    ⟨haccounts.statements, hgraph.emissions, Graph.quads_of_sameBut hgraph⟩,
    ⟨haccounts.errors, ?_⟩, hfollows.warnings, hfollows.registries⟩
  have herrors := hfollows.errors
  rw [haccounts.errors, List.nil_append, failers, keepBy_of_tags] at herrors
  exact herrors

/-- A configuration with a subject that gets two literals. A node between theirs lacks a predicate. -/
def twoLiterals : Setting where
  config :=
    { root := .mk .mapping "config" [] [
        .mk .resource "resource" [] [
          .mk .triple "triple" [("predicate", "rdf:value"), ("value", "one")] [] "<triple 1/>",
          .mk .triple "triple" [("value", "two")] [] "<triple 2/>",
          .mk .triple "triple" [("predicate", "rdf:value"), ("value", "three")] [] "<triple 3/>"]
          "<resource/>"] "<config/>"
      namespaces := .standard
      warnings := [] }
  transforms := {}
  paths := ⟨⟨#[]⟩, []⟩

theorem twoLiterals_without :
    let g : Graph := ⟨⟨.standard, none⟩, .turtle, #[], #[], #[]⟩
    let all := runConfig twoLiterals g 0
    let rest := runConfig (twoLiterals.without [0] 0) g 0
    rest.1 = all.1 ∧
      rest.2.graph.quads =
        keepBy (Option.all (·.remains [0] 0)) (madeBy g (trace twoLiterals g 0)) all.2.graph.quads ∧
      all.2.graph.quads.map (·.object) = [.literal ⟨"one", .plain⟩, .literal ⟨"three", .plain⟩] ∧
      rest.2.graph.quads.map (·.object) = [.literal ⟨"three", .plain⟩] ∧
      rest.2.diagnostics.errors.map (·.source) = [some "<triple 2/>"] := by
  intro g all rest
  have hfree : ¬ twoLiterals.config.root.BetweenIfAndElse [0] 0 := by
    rintro ⟨i, _, _, hi, _⟩
    cases hi
  obtain ⟨hresult, -, -, ⟨-, -, hquads⟩, -⟩ :=
    runConfig_without twoLiterals g 0 (p := [0]) (k := 0) rfl (.inl rfl) hfree
  exact ⟨hresult, hquads, by decide +kernel, by decide +kernel, by decide +kernel⟩

end Triplify.Mapping
