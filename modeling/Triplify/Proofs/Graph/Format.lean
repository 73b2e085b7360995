import Triplify.Proofs.Graph.Atomic
import Triplify.Serialize
/-!
# The format of a graph

Naming a graph changes the format of a graph, if that has no named graphs; no other call does. So a
graph with a named graph in it is never written without it.

`format_afterAll`: the format after any calls. `unnamed_afterAll`: a graph that is written as triples
has none but the default graph.
-/

namespace Triplify

namespace OutputFormat

theorem hasNamedGraphs_withNamedGraphs (f : OutputFormat) : f.withNamedGraphs.hasNamedGraphs := by
  cases f <;> rfl

theorem withNamedGraphs_of_has {f : OutputFormat} (h : f.hasNamedGraphs) : f.withNamedGraphs = f :=
  if_pos h

/-- A format that is written as triples has no named graphs. -/
theorem hasNamedGraphs_of_triples {f : OutputFormat}
    {write : NamespaceTable → List Rdf.Triple → Graph.Written} (h : f.writer = .triples write) :
    f.hasNamedGraphs = false := by
  cases f <;> first | rfl | cases h

end OutputFormat

/-- The call names a graph, and succeeds. -/
def GraphCall.Names (c : GraphCall) (g : Graph) : Prop :=
  (∃ name, c = .sealAs name) ∧ (c.edit.exec g).1 = .ok none

namespace Graph

/-- One of the calls, carried out in place and in order, names a graph. -/
def NamesOne (g : Graph) (calls : List GraphCall) : Prop :=
  ∃ before c rest, calls = before ++ c :: rest ∧ c.Names (GraphEdit.execAll before g).2

/-- A graph without named graphs: its triples are all there is. -/
structure Unnamed (g : Graph) : Prop where
  sealed : g.sealed = #[]
  quads : g.quads = g.triples.map fun t => ⟨t, none⟩
  dataset : g.dataset = (Rdf.numberedTriples g.triples).map fun t => ⟨t, none⟩

end Graph

/-! ## Calls and the format -/

/-- Only naming a graph seals one. -/
theorem Naming.seal?_of_deeds {v : Naming} {slots : Nat} {c : GraphCall} {r : Option Nat × List Deed}
    (hc : ∀ name, c ≠ .sealAs name) (h : v.deeds slots c = .ok r) : ∀ d ∈ r.2, d.seal? = none := by
  cases c with
  | sealAs name => exact (hc name rfl).elim
  | addResource => cases h; simp [Deed.seal?]
  | _ =>
    simp only [Naming.deeds, bind, Except.bind] at h
    repeat' split at h
    all_goals cases h
    all_goals simp [Deed.seal?]

namespace Graph

theorem enactAll_of_seal? {ds : List Deed} (h : ∀ d ∈ ds, d.seal? = none) (g : Graph) :
    (g.enactAll ds).format = g.format ∧ (g.enactAll ds).sealed = g.sealed := by
  induction ds generalizing g with
  | nil => exact ⟨rfl, rfl⟩
  | cons d ds ih =>
    obtain ⟨hformat, hsealed⟩ := ih (fun e he => h e (.tail _ he)) (g.enact d)
    rw [enactAll_cons, hformat, hsealed]
    cases d with
    | sealed name => cases h _ (.head _)
    | _ => exact ⟨rfl, rfl⟩

/-- A call that names a graph changes the format. -/
theorem after_names {g : Graph} {c : GraphCall} (h : c.Names g) :
    (g.after c).format = g.format.withNamedGraphs := by
  obtain ⟨⟨name, rfl⟩, hdone⟩ := h
  rw [GraphEdit.exec_edit_eq] at hdone
  rw [after]
  rw [call_eq] at hdone ⊢
  simp only [Naming.deeds] at hdone ⊢
  cases hiri : g.resolve name with
  | error e => rw [hiri] at hdone; cases hdone
  | ok iri => rfl

/-- Any other call, or one that fails, leaves the format and the named graphs as they are. -/
theorem after_of_not_names {g : Graph} {c : GraphCall} (h : ¬ c.Names g) :
    (g.after c).format = g.format ∧ (g.after c).sealed = g.sealed := by
  have hcall := g.call_eq c
  rw [after, hcall]
  cases hd : g.toNaming.deeds g.slots.size c with
  | error e => exact ⟨rfl, rfl⟩
  | ok r =>
    refine enactAll_of_seal? (Naming.seal?_of_deeds (fun name hname => h ⟨⟨name, hname⟩, ?_⟩) hd) g
    subst hname
    rw [GraphEdit.exec_edit, hd]
    simp only [Naming.deeds] at hd
    cases hiri : g.resolve name with
    | error e => rw [hiri] at hd; cases hd
    | ok iri => rw [hiri] at hd; cases hd; rfl

theorem namesOne_nil (g : Graph) : ¬ g.NamesOne [] := by
  rintro ⟨before, c, rest, hcalls, -⟩
  simp at hcalls

theorem namesOne_cons (g : Graph) (c : GraphCall) (calls : List GraphCall) :
    g.NamesOne (c :: calls) ↔ c.Names g ∨ (g.after c).NamesOne calls := by
  have hafter : (c.edit.exec g).2 = g.after c := by rw [GraphEdit.exec_edit_eq]
  constructor
  · rintro ⟨before, d, rest, hcalls, hnames⟩
    cases before with
    | nil =>
      cases hcalls
      exact .inl hnames
    | cons b before =>
      obtain ⟨rfl, rfl⟩ := List.cons.inj hcalls
      rw [GraphEdit.execAll, hafter] at hnames
      exact .inr ⟨before, d, rest, rfl, hnames⟩
  · rintro (hnames | ⟨before, d, rest, rfl, hnames⟩)
    · exact ⟨[], c, calls, rfl, hnames⟩
    · refine ⟨c :: before, d, rest, rfl, ?_⟩
      rwa [GraphEdit.execAll, hafter]

/-- The format stays as it is until a graph is named, and then is one with named graphs for good. -/
theorem format_afterAll (g : Graph) (calls : List GraphCall) :
    (g.NamesOne calls → (g.afterAll calls).format = g.format.withNamedGraphs) ∧
      (¬ g.NamesOne calls →
        (g.afterAll calls).format = g.format ∧ (g.afterAll calls).sealed = g.sealed) := by
  induction calls generalizing g with
  | nil => exact ⟨fun h => (g.namesOne_nil h).elim, fun _ => ⟨rfl, rfl⟩⟩
  | cons c calls ih =>
    obtain ⟨hnamed, hnot⟩ := ih (g.after c)
    rw [namesOne_cons, afterAll, List.foldl_cons]
    by_cases hc : c.Names g
    · have hformat := after_names hc
      refine ⟨fun _ => ?_, fun h => (h (.inl hc)).elim⟩
      by_cases hrest : (g.after c).NamesOne calls
      · rw [← OutputFormat.withNamedGraphs_of_has g.format.hasNamedGraphs_withNamedGraphs, ← hformat]
        exact hnamed hrest
      · exact (hnot hrest).1.trans hformat
    · obtain ⟨hformat, hsealed⟩ := after_of_not_names hc
      refine ⟨fun h => ?_, fun h => ?_⟩
      · rw [← hformat]
        exact hnamed (h.resolve_left hc)
      · rw [← hformat, ← hsealed]
        exact hnot fun hrest => h (.inr hrest)

example : (afterAll { toNaming := ⟨.standard, none⟩, format := .turtle }
    [.addBlank ⟨"owl", "Thing"⟩, .sealAs "urn:g", .sealAs "no IRI"]).format = .trig := by decide

end Graph

/-! ## Writing triples -/

theorem Rdf.numbered_map (triples : List Rdf.Triple) :
    Rdf.numbered (triples.map fun t => ⟨t, none⟩)
      = (Rdf.numberedTriples triples).map fun t => ⟨t, none⟩ := by
  simp [Rdf.numbered, Rdf.numberedTriples, List.flatMap_map, List.map_map, Function.comp_def]

namespace Graph

theorem Unnamed.of_sealed {g : Graph} (h : g.sealed = #[]) : g.Unnamed := by
  have hquads : g.quads = g.triples.map fun t => ⟨t, none⟩ := by
    simp [Graph.quads, Graph.triples, h, quad, Function.comp_def]
  exact ⟨h, hquads, by rw [Graph.dataset, hquads, Rdf.numbered_map]⟩

/-- After any calls on a new graph, a graph that is written as triples has no named graph. -/
theorem unnamed_afterAll (v : Naming) (format : OutputFormat) (calls : List GraphCall)
    {write : NamespaceTable → List Rdf.Triple → Written}
    (h : (afterAll { toNaming := v, format := format } calls).format.writer = .triples write) :
    (afterAll { toNaming := v, format := format } calls).Unnamed := by
  obtain ⟨hnamed, hnot⟩ := format_afterAll { toNaming := v, format := format } calls
  by_cases hone : NamesOne { toNaming := v, format := format } calls
  · have htriples := OutputFormat.hasNamedGraphs_of_triples h
    rw [hnamed hone, OutputFormat.hasNamedGraphs_withNamedGraphs] at htriples
    cases htriples
  · exact .of_sealed (hnot hone).2

end Graph

end Triplify
