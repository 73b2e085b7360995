import Triplify.Proofs.Graph.Log
/-!
# Graphs grow

Calls add statements at the end and name graphs, and they take nothing back. A statement that is in
no named graph gets the next name, and a statement that is in one stays there.

`grows_afterAll`: all that any calls do to the statements and to the names of a graph.
-/

namespace Triplify

namespace Graph

/-- The names of the named graphs, in the order in which they were named. -/
def names (g : Graph) : List String := g.sealed.toList.map (·.name)

/-- What the graph of a statement is named, if it has a name. Statements count in the order in which
they were made. -/
def graphOf? (g : Graph) (t : Nat) : Option (Option String) := g.emissions[t]?.map (·.2)

theorem graphOf?_of_lt {g : Graph} {t : Nat} (h : t < g.size) : ∃ name?, g.graphOf? t = some name? := by
  rw [size_eq, quads_eq, List.length_map] at h
  exact ⟨g.emissions[t].2, by rw [graphOf?, List.getElem?_eq_getElem h]; rfl⟩

theorem lt_of_graphOf? {g : Graph} {t : Nat} {name? : Option String}
    (h : g.graphOf? t = some name?) : t < g.size := by
  obtain ⟨e, he, -⟩ := Option.map_eq_some_iff.1 h
  rw [size_eq, quads_eq, List.length_map]
  exact (List.getElem?_eq_some_iff.1 he).1

/-- One graph comes of another when graphs of such names are named, one after the other. -/
structure Grows (g : Graph) (later : List String) (g' : Graph) : Prop where
  names : g'.names = g.names ++ later
  emissions : (g.emissions.map fun e => (e.1, e.2.or later.head?)) <+: g'.emissions

namespace Grows

variable {g g' g'' : Graph} {later more : List String}

theorem refl (g : Graph) : Grows g [] g where
  names := (List.append_nil _).symm
  emissions := by simp

theorem trans (h : Grows g later g') (h' : Grows g' more g'') : Grows g (later ++ more) g'' where
  names := by rw [h'.names, h.names, List.append_assoc]
  emissions := by
    have hnamed : g.emissions.map (fun e => (e.1, e.2.or (later ++ more).head?)) =
        (g.emissions.map fun e => (e.1, e.2.or later.head?)).map
          fun e => (e.1, e.2.or more.head?) := by
      simp only [List.map_map, List.head?_append, Function.comp_def, Option.or_assoc]
    rw [hnamed]
    exact (h.emissions.map _).trans h'.emissions

theorem size_le (h : Grows g later g') : g.size ≤ g'.size := by
  have hle := h.emissions.length_le
  rw [size_eq, size_eq, quads_eq, quads_eq, List.length_map, List.length_map]
  rwa [List.length_map] at hle

/-- A statement without a name gets the first one, and any other keeps its name. -/
theorem graphOf? (h : Grows g later g') {t : Nat} {name? : Option String}
    (ht : g.graphOf? t = some name?) : g'.graphOf? t = some (name?.or later.head?) := by
  obtain ⟨e, he, rfl⟩ := Option.map_eq_some_iff.1 ht
  obtain ⟨made, hmade⟩ := h.emissions
  have hin : t < g.emissions.length := (List.getElem?_eq_some_iff.1 he).1
  rw [Graph.graphOf?, ← hmade, List.getElem?_append_left (by rwa [List.length_map]),
    List.getElem?_map, he]
  rfl

/-- A statement is still without a name exactly if it was before and no graph has been named. -/
theorem graphOf?_eq_none (h : Grows g later g') {t : Nat} (ht : t < g.size) :
    g'.graphOf? t = some none ↔ g.graphOf? t = some none ∧ g'.names = g.names := by
  have hlater : g'.names = g.names ↔ later = [] := by
    rw [h.names, List.append_right_eq_self]
  obtain ⟨name?, hname⟩ := graphOf?_of_lt ht
  rw [h.graphOf? hname, hname, hlater]
  cases name? <;> cases later <;> simp

end Grows

/-! ## Calls -/

theorem grows_enact (g : Graph) (d : Deed) : Grows g d.seal?.toList (g.enact d) where
  names := by cases d <;> simp [names, enact, Deed.seal?]
  emissions := by
    rw [enact_emissions]
    cases d <;> simp [Deed.record, Deed.seal?]

theorem grows_enactAll (g : Graph) (ds : List Deed) : ∃ later, Grows g later (g.enactAll ds) := by
  induction ds generalizing g with
  | nil => exact ⟨[], .refl g⟩
  | cons d ds ih =>
    obtain ⟨later, hrest⟩ := ih (g.enact d)
    exact ⟨_, (g.grows_enact d).trans hrest⟩

/-- What any calls do, failing ones included, is to name graphs one after the other and to make
statements. -/
theorem grows_afterAll (g : Graph) (calls : List GraphCall) :
    ∃ later, Grows g later (g.afterAll calls) := by
  induction calls generalizing g with
  | nil => exact ⟨[], .refl g⟩
  | cons c rest ih =>
    have hfirst : ∃ later, Grows g later (g.after c) := by
      have hcall := g.call_eq c
      rw [after, hcall]
      cases g.toNaming.deeds g.slots.size c with
      | error e => exact ⟨[], .refl g⟩
      | ok r => exact g.grows_enactAll r.2
    obtain ⟨later, hfirst⟩ := hfirst
    obtain ⟨more, hrest⟩ := ih (g.after c)
    exact ⟨later ++ more, hfirst.trans hrest⟩

end Graph

end Triplify
