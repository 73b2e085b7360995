import Triplify.Mapping.Document
import Triplify.Proofs.Walk.Account
/-!
# A run is made of calls

The graph that a run leaves, however it ends, is the one that some calls make of the graph that it
began with. So what holds of a graph after any calls holds of every graph that is mapped.

`mapDocument_afterAll`: the graph of a document is a new graph after some calls.
-/

namespace Triplify

namespace Graph

theorem afterAll_append (g : Graph) (calls more : List GraphCall) :
    g.afterAll (calls ++ more) = (g.afterAll calls).afterAll more :=
  List.foldl_append

theorem empty_eq_ok {namespaces : NamespaceTable} {format : OutputFormat} {base : Option String}
    {g : Graph} (h : empty namespaces format base = .ok g) :
    g = { toNaming := ⟨namespaces, base⟩, format := format } := by
  cases base with
  | none =>
    cases h
    rfl
  | some b =>
    simp only [empty] at h
    cases hb : checkBase b with
    | error e => rw [hb] at h; cases h
    | ok _ => rw [hb] at h; cases h; rfl

end Graph

namespace Mapping

variable {α : Type}

/-- The graph of the second state is what some calls make of the graph of the first. -/
def Reaches (st st' : RunState) : Prop := ∃ calls, st'.graph = st.graph.afterAll calls

theorem Reaches.refl (st : RunState) : Reaches st st := ⟨[], rfl⟩

theorem Reaches.trans {a b c : RunState} (h : Reaches a b) (h' : Reaches b c) : Reaches a c := by
  obtain ⟨calls, hb⟩ := h
  obtain ⟨more, hc⟩ := h'
  exact ⟨calls ++ more, by rw [hc, hb, Graph.afterAll_append]⟩

/-- A step reaches what its calls do. -/
theorem Step.reaches {may : Change → Prop} {m : Run α} (hm : Step may m) (st : RunState) :
    Reaches st (m.exec st).2 := by
  refine hm.keeps Reaches.refl Reaches.trans (fun c st r _ hd => ⟨[c], ?_⟩) (fun _ st _ => .refl st)
    (fun _ st => .refl st) st
  have hcall : st.graph.call c = .ok (r.1, st.graph.enactAll r.2) := by
    rw [Graph.call_eq, hd]
    rfl
  simp only [Graph.afterAll, List.foldl_cons, List.foldl_nil, Graph.after, hcall]

/-- Recording a failure leaves the graph alone. -/
theorem Run.exec_guarded_graph (n : Node) (m : Run α) (st : RunState) :
    ((guarded n m).exec st).2.graph = (m.exec st).2.graph := by
  rcases hm : m.exec st with ⟨e | a, st'⟩
  · cases he : e.isFatal with
    | true => rw [exec_guarded_fatal n hm he]
    | false => rw [exec_guarded_error n hm he]
  · rw [exec_guarded_ok n hm]

theorem Reaches.guarded {m : Run α} {st : RunState} (h : Reaches st (m.exec st).2) (n : Node) :
    Reaches st ((Run.guarded n m).exec st).2 := by
  obtain ⟨calls, hcalls⟩ := h
  exact ⟨calls, by rw [Run.exec_guarded_graph, hcalls]⟩

theorem Reaches.relation (s : Setting) :
    Relation (.self s) fun _ _ _ m => ∀ st, Reaches st (m.exec st).2 where
  pure _ _ _ st := .refl st
  bind _ _ _ _ m _ k h hk st := by
    have hfirst := h st
    rcases hm : m.exec st with ⟨e | a, st'⟩ <;> rw [hm] at hfirst
    · rw [Run.exec_bind_error hm]
      exact hfirst
    · rw [Run.exec_bind_ok hm]
      exact hfirst.trans (hk a st')
  own _ hm st := hm.reaches st
  within _ inner _ m h st := by
    obtain ⟨calls, hcalls⟩ := h { st with context := inner }
    exact ⟨calls, by rw [Run.exec_within, hcalls]⟩
  child _ _ _ _ _ _ _ h st := (h st).guarded _
  report _ _ _ htag st := by
    refine Reaches.guarded ?_ _
    rw [exec_runError htag]
    exact .refl st
  naming _ hm st := (hm.reaches st).guarded _
  skip _ _ _ _ _ h := nomatch h

/-- A run, whether it fails or not, leaves what some calls make of its graph. -/
theorem runConfig_reaches (s : Setting) (g : Graph) (taken : Nat) :
    ∃ calls, (runConfig s g taken).2.graph = g.afterAll calls :=
  (Reaches.relation s).config _

/-- The graph that a document begins with. -/
def Converter.newGraph (c : Converter) (base : Option String) : Graph where
  namespaces := c.config.namespaces
  base := base
  format := c.format

/-- The graph of a document is a new graph after some calls. -/
theorem Converter.mapDocument_afterAll {c : Converter} {taken : Nat} {text : String}
    {base : Option String} {g : Graph} {d : Diagnostics}
    (h : (c.mapDocument taken text base).1 = .ok (g, d)) :
    ∃ calls, g = (c.newGraph base).afterAll calls := by
  unfold mapDocument at h
  split at h
  · cases h
  next document _ =>
  split at h
  · cases h
  next start hstart =>
  rw [newGraph, ← Graph.empty_eq_ok hstart]
  dsimp only at h
  generalize hsetting : Setting.mk c.config c.transforms
    ⟨document, Xml.Document.bindMissing document.discoverNamespaces c.config.namespaces⟩ = s at h
  obtain ⟨calls, hcalls⟩ := runConfig_reaches s start taken
  rcases hrun : runConfig s start taken with ⟨e | _, st⟩ <;> rw [hrun] at h hcalls
  · cases h
  · cases h
    exact ⟨calls, hcalls⟩

end Mapping

end Triplify
