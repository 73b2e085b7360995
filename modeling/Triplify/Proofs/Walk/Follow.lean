import Triplify.Proofs.Walk.Image
/-!
# Two runs, one of them without some nodes

`Follows` relates the states of two runs, one of which leaves some nodes out. They agree in all but
the statements and the errors of the nodes that are left out, and what is kept stands in the same
order, about the same slots and in the same graphs.

`Step.follows`: a step that both runs make keeps the states related. `Step.hidden`: so does a step
that only the first makes, if it makes statements and nothing else.
-/

namespace Triplify

/-- The entries of a list whose tags are to be kept. -/
def keepBy {α β : Type} (keep : β → Bool) (tags : List β) (xs : List α) : List α :=
  ((xs.zip tags).filter fun x => keep x.2).map (·.1)

section
variable {α β γ : Type} {keep : β → Bool} {tags tags' : List β} {xs ys : List α}

theorem keepBy_append (h : tags.length = xs.length) :
    keepBy keep (tags ++ tags') (xs ++ ys) = keepBy keep tags xs ++ keepBy keep tags' ys := by
  rw [keepBy, List.zip_append h.symm, List.filter_append, List.map_append]
  rfl

theorem keepBy_map (f : α → γ) : keepBy keep tags (xs.map f) = (keepBy keep tags xs).map f := by
  rw [keepBy, keepBy, List.zip_map_left, List.filter_map, List.map_map, List.map_map]
  rfl

theorem keepBy_kept {tag : β} (h : keep tag) (x : α) : keepBy keep [tag] [x] = [x] := by
  simp [keepBy, h]

theorem keepBy_left_out {tag : β} (h : keep tag = false) (x : α) : keepBy keep [tag] [x] = [] := by
  simp [keepBy, h]

/-- Entries that come from their tags. -/
theorem keepBy_of_tags (tag : γ → β) (entry : γ → α) (cs : List γ) :
    keepBy keep (cs.map tag) (cs.map entry) = (cs.filter fun c => keep (tag c)).map entry := by
  rw [keepBy, List.zip_map', List.filter_map, List.map_map]
  rfl

theorem keepBy_replicate {tag : β} (h : keep tag) (xs : List α) :
    keepBy keep (.replicate xs.length tag) xs = xs := by
  have htags : keepBy keep (xs.map fun _ => tag) (xs.map id) =
      (xs.filter fun _ => keep tag).map id := keepBy_of_tags (fun _ => tag) id xs
  rw [List.map_const', List.map_id, List.filter_eq_self.2 fun _ _ => h, List.map_id] at htags
  exact htags

end

end Triplify

namespace Triplify.Mapping

/-! ## Graphs -/

/-- The second graph is the first without the statements of the nodes that are left out. The list
tells which node made each statement of the first, if any did. -/
structure SameBut (kept : Located → Bool) (made : List (Option Located)) (g g' : Graph) : Prop where
  naming : g'.toNaming = g.toNaming
  format : g'.format = g.format
  slots : g'.slots = g.slots
  length : made.length = g.emissions.length
  emissions : g'.emissions = keepBy (Option.all kept) made g.emissions

namespace SameBut

variable {kept : Located → Bool} {made : List (Option Located)} {g g' : Graph} {l : Located}

/-- A deed of a node that is kept. -/
theorem enact (h : SameBut kept made g g') (hl : kept l) (d : Deed) :
    SameBut kept (made ++ d.statement?.toList.map fun _ => some l) (g.enact d) (g'.enact d) := by
  have hrecord := g.enact_emissions d
  have hrecord' := g'.enact_emissions d
  cases d with
  | opened name =>
    simp only [Deed.statement?, Option.toList_none, List.map_nil, List.append_nil]
    exact ⟨h.naming, h.format, by simp [Graph.enact, h.slots], by rw [hrecord]; exact h.length,
      by rw [hrecord, hrecord']; exact h.emissions⟩
  | identified slot iri =>
    simp only [Deed.statement?, Option.toList_none, List.map_nil, List.append_nil]
    exact ⟨h.naming, h.format, by simp [Graph.enact, h.slots], by rw [hrecord]; exact h.length,
      by rw [hrecord, hrecord']; exact h.emissions⟩
  | stated s =>
    refine ⟨h.naming, h.format, h.slots, ?_, ?_⟩
    · rw [hrecord]
      simp [Deed.statement?, Deed.record, h.length]
    · have hsome : Option.all kept (some l) := hl
      rw [hrecord, hrecord', Deed.record, Deed.record, h.emissions, keepBy_append h.length]
      exact congrArg (_ ++ ·) (keepBy_kept hsome _).symm
  | sealed name =>
    simp only [Deed.statement?, Option.toList_none, List.map_nil, List.append_nil]
    refine ⟨h.naming, by simp [Graph.enact, h.format], h.slots, ?_, ?_⟩
    · rw [hrecord]
      simp [Deed.record, h.length]
    · rw [hrecord, hrecord', Deed.record, Deed.record, h.emissions, keepBy_map]

theorem enactAll (h : SameBut kept made g g') (hl : kept l) (ds : List Deed) :
    SameBut kept (made ++ (ds.filterMap Deed.statement?).map fun _ => some l) (g.enactAll ds)
      (g'.enactAll ds) := by
  induction ds generalizing made g g' with
  | nil => simpa using h
  | cons d ds ih =>
    have hrest := ih (h.enact hl d)
    rw [List.append_assoc, ← List.map_append] at hrest
    have hsplit : (d :: ds).filterMap Deed.statement? =
        d.statement?.toList ++ ds.filterMap Deed.statement? := by
      cases hd : d.statement? <;> simp [hd]
    rw [hsplit]
    exact hrest

/-- A statement of a node that is left out. -/
theorem hidden (h : SameBut kept made g g') (hl : kept l = false) (s : GraphStatement) :
    SameBut kept (made ++ [some l]) (g.enact (.stated s)) g' := by
  refine ⟨h.naming, h.format, h.slots, ?_, ?_⟩
  · rw [g.enact_emissions]
    simp [Deed.record, h.length]
  · have hsome : Option.all kept (some l) = false := hl
    rw [g.enact_emissions, Deed.record, keepBy_append h.length, keepBy_left_out hsome,
      List.append_nil, h.emissions]

end SameBut

/-! ## States -/

/-- The second state is the first without the statements and the errors of the nodes that are left
out. The lists tell which node made each statement of the first, and which caused each error. -/
structure Follows (kept : Located → Bool) (made : List (Option Located)) (failed : List Located)
    (st st' : RunState) : Prop where
  graph : SameBut kept made st.graph st'.graph
  registries : st'.registries = st.registries
  context : st'.context = st.context
  length : failed.length = st.diagnostics.errors.length
  errors : st'.diagnostics.errors = keepBy kept failed st.diagnostics.errors
  warnings : st'.diagnostics.warnings = st.diagnostics.warnings

namespace Follows

variable {kept : Located → Bool} {made : List (Option Located)} {failed : List Located}
  {st st' : RunState}

theorem of_graph {made' : List (Option Located)} {g g' : Graph} (h : Follows kept made failed st st')
    (hg : SameBut kept made' g g') :
    Follows kept made' failed { st with graph := g } { st' with graph := g' } :=
  ⟨hg, h.registries, h.context, h.length, h.errors, h.warnings⟩

theorem of_context (h : Follows kept made failed st st') (c : Context) :
    Follows kept made failed { st with context := c } { st' with context := c } :=
  ⟨h.graph, h.registries, rfl, h.length, h.errors, h.warnings⟩

/-- A failure that both runs record. -/
theorem report (h : Follows kept made failed st st') {l : Located} (hl : kept l) {n' : Node}
    (hn : SameHead n' l.node) (e : MappingError) :
    Follows kept made (failed ++ [l])
      { st with diagnostics := l.node.reportIn e st.diagnostics }
      { st' with diagnostics := n'.reportIn e st'.diagnostics } := by
  refine ⟨h.graph, h.registries, h.context, ?_, ?_, h.warnings⟩
  · simp [Node.reportIn, h.length]
  · simp only [Node.reportIn]
    rw [keepBy_append h.length, keepBy_kept hl, h.errors, hn.report]

/-- A failure that only the first run records. -/
theorem hideReport (h : Follows kept made failed st st') {l : Located} (hl : kept l = false)
    (e : MappingError) :
    Follows kept made (failed ++ [l]) { st with diagnostics := l.node.reportIn e st.diagnostics }
      st' := by
  refine ⟨h.graph, h.registries, h.context, ?_, ?_, h.warnings⟩
  · simp [Node.reportIn, h.length]
  · simp only [Node.reportIn]
    rw [keepBy_append h.length, keepBy_left_out hl, List.append_nil, h.errors]

end Follows

/-! ## Steps -/

/-- A call that only makes a statement amounts to that. -/
theorem deeds_of_statementOnly {v : Naming} {slots : Nat} {c : GraphCall}
    {r : Option Nat × List Deed} (hc : StatementOnly (.graph c)) (h : v.deeds slots c = .ok r) :
    ∃ s, r.2 = [.stated s] := by
  cases c with
  | addObject handle predicate object =>
    rw [Naming.deeds] at h
    cases hslot : slotOf slots handle <;> cases hname : v.nameIri predicate <;>
      cases hiri : v.shortIri object <;> rw [hslot, hname, hiri] at h <;> cases h
    exact ⟨_, rfl⟩
  | addLiteral handle predicate text kind =>
    rw [Naming.deeds] at h
    cases hslot : slotOf slots handle <;> cases hname : v.nameIri predicate <;>
      cases hliteral : v.literal text kind <;> rw [hslot, hname, hliteral] at h <;> cases h
    exact ⟨_, rfl⟩
  | addResource => exact hc.elim
  | addNamed id => exact hc.elim
  | identify handle id => exact hc.elim
  | addBlank type => exact hc.elim
  | link handle predicate target => exact hc.elim
  | sealAs name => exact hc.elim

namespace Step

variable {may : Change → Prop} {α : Type} {m : Run α} {kept : Located → Bool} {l : Located}

/-- A step of a node that is kept has the same result in both runs, and all the statements that it
makes are kept. -/
theorem follows (hm : Step may m) (hl : kept l) {made : List (Option Located)}
    {failed : List Located} {st st' : RunState} (h : Follows kept made failed st st') :
    (m.exec st').1 = (m.exec st).1 ∧
      ∃ n, Follows kept (made ++ List.replicate n (some l)) failed (m.exec st).2 (m.exec st').2 := by
  -- All parts of a step but calls make no statement.
  have hnone : ∀ {st st' : RunState}, Follows kept made failed st st' →
      ∃ n, Follows kept (made ++ List.replicate n (some l)) failed st st' :=
    fun h => ⟨0, by simpa using h⟩
  induction hm generalizing made st st' with
  | given r hr =>
    rw [Run.exec_ofExcept, Run.exec_ofExcept]
    exact ⟨rfl, hnone h⟩
  | read k _ ih =>
    have hread := ih st.registries st.context h
    have hexec : ∀ st : RunState, (do let st ← get; k st.registries st.context : Run _).exec st =
        (k st.registries st.context).exec st := fun _ => rfl
    rw [hexec, hexec, h.registries, h.context]
    exact hread hnone
  | call c hc =>
    -- The deeds do not depend on the statements so far, in which the two graphs differ.
    have hdeeds : st'.graph.deeds st'.graph.slots.size c = st.graph.deeds st.graph.slots.size c := by
      rw [h.graph.naming, h.graph.slots]
    cases hd : st.graph.deeds st.graph.slots.size c with
    | error e =>
      rw [Run.exec_call_error hd, Run.exec_call_error (hdeeds.trans hd)]
      exact ⟨rfl, hnone h⟩
    | ok r =>
      rw [Run.exec_call_ok hd, Run.exec_call_ok (hdeeds.trans hd)]
      refine ⟨rfl, (r.2.filterMap Deed.statement?).length, h.of_graph ?_⟩
      rw [← List.map_const']
      exact h.graph.enactAll hl r.2
  | registries f hc =>
    refine ⟨rfl, hnone ?_⟩
    exact ⟨h.graph, congrArg f h.registries, h.context, h.length, h.errors, h.warnings⟩
  | named hc =>
    refine ⟨rfl, hnone ?_⟩
    have hcontext := congrArg (fun c : Context => { c with hasIdentifier := true }) h.context
    exact ⟨h.graph, h.registries, hcontext, h.length, h.errors, h.warnings⟩
  | @bind _ _ m k _ _ ihm ihk =>
    obtain ⟨hresult, n, hfirst⟩ := ihm h hnone
    rcases hr : m.exec st with ⟨e | a, st₁⟩ <;> rcases hr' : m.exec st' with ⟨e' | a', st₁'⟩ <;>
      rw [hr, hr'] at hresult hfirst <;> cases hresult
    · rw [Run.exec_bind_error hr, Run.exec_bind_error hr']
      exact ⟨rfl, n, hfirst⟩
    · rw [Run.exec_bind_ok hr, Run.exec_bind_ok hr']
      obtain ⟨hlast, n', hsecond⟩ := ihk a hfirst fun h => ⟨0, by simpa using h⟩
      refine ⟨hlast, n + n', ?_⟩
      rw [← List.replicate_append_replicate, ← List.append_assoc]
      exact hsecond

/-- The statements of a node that is left out make no difference. -/
theorem hidden (hm : Step StatementOnly m) (hl : kept l = false) {made : List (Option Located)}
    {failed : List Located} {st st' : RunState} (h : Follows kept made failed st st') :
    ∃ n, Follows kept (made ++ List.replicate n (some l)) failed (m.exec st).2 st' := by
  refine hm.keeps (R := fun a b => ∀ made, Follows kept made failed a st' →
    ∃ n, Follows kept (made ++ List.replicate n (some l)) failed b st') ?_ ?_ ?_ ?_ ?_ st made h
  · exact fun a made h => ⟨0, by simpa using h⟩
  · intro a b c hab hbc made h
    obtain ⟨n, h⟩ := hab made h
    obtain ⟨n', h⟩ := hbc _ h
    rw [List.append_assoc, List.replicate_append_replicate] at h
    exact ⟨n + n', h⟩
  · intro c a r hc hr made h
    obtain ⟨s, hs⟩ := deeds_of_statementOnly hc hr
    rw [hs]
    exact ⟨1, h.of_graph (h.graph.hidden hl s)⟩
  · exact fun hc => hc.elim
  · exact fun hc => hc.elim

end Step

end Triplify.Mapping
