import Triplify.Proofs.Graph.Deed
/-!
# The log of a graph

The deeds of the calls on a graph, written down in order. The log knows nothing of buffers. A
statement is in the graph that is sealed next after it, and a slot stands for the last name that it
is given anywhere in the log.

`Refines.afterAll`: the graph and the log give the same answers and stay in step. `quads_eq_log`:
after any calls the graph lists the statements of the log.
-/

namespace Triplify

/-! ## Logs -/

/-- Deeds in order, and what names in them stand for. -/
structure Log extends Naming where
  deeds : List Deed

namespace Log

/-- The number of slots that the deeds open. -/
def slotCount (l : Log) : Nat := l.deeds.countP Deed.opens

/-- Carries out a call. -/
def call (l : Log) (c : GraphCall) : Except MappingError (Option Nat × Log) :=
  (l.toNaming.deeds l.slotCount c).map fun r => (r.1, { l with deeds := l.deeds ++ r.2 })

/-- The log after a call. A call that fails leaves no deeds. -/
def after (l : Log) (c : GraphCall) : Log :=
  match l.call c with
  | .ok (_, l') => l'
  | .error _ => l

/-- The log after calls. -/
def afterAll (l : Log) (calls : List GraphCall) : Log := calls.foldl after l

/-- The answers to calls, in order. -/
def answers (l : Log) : List GraphCall → List (Except MappingError (Option Nat))
  | [] => []
  | c :: rest => (l.call c).map (·.1) :: answers (l.after c) rest

/-- The names that slots are given, in order. The slots are numbered as they are opened. -/
def namings (next : Nat) : List Deed → List (Nat × String)
  | [] => []
  | .opened (some iri) :: rest => (next, iri) :: namings (next + 1) rest
  | .opened none :: rest => namings (next + 1) rest
  | .identified slot iri :: rest => (slot, iri) :: namings next rest
  | _ :: rest => namings next rest

/-- The last name that a slot is given. -/
def name? (l : Log) (slot : Nat) : Option String := (namings 0 l.deeds).reverse.lookup slot

/-- A slot stands for its last name, and for a blank node of its own if it has none. -/
def subject (l : Log) (slot : Nat) : Rdf.Subject :=
  match l.name? slot with
  | some iri => .iri iri
  | none => .blank slot

/-- The term that an object stands for. -/
def term (l : Log) : GraphObject → Rdf.Term
  | .iri iri => .node (.iri iri)
  | .slot n => .node (l.subject n)
  | .literal x => .literal x

/-- The statements in order, each with the graph that is sealed next. -/
def emissions : List Deed → List (GraphStatement × Option String)
  | [] => []
  | .stated s :: rest => (s, rest.findSome? Deed.seal?) :: emissions rest
  | _ :: rest => emissions rest

/-- The statements in order, each with its terms and its graph. -/
def quads (l : Log) : List Rdf.Quad :=
  (emissions l.deeds).map fun e =>
    ⟨⟨l.subject e.1.subject, e.1.predicate, l.term e.1.object⟩, e.2⟩

theorem emissions_append (ds : List Deed) (d : Deed) :
    emissions (ds ++ [d]) = d.record (emissions ds) := by
  induction ds with
  | nil => cases d <;> rfl
  | cons e ds ih =>
    cases e with
    | stated s =>
      -- Only a seal that comes last can name the graph of an earlier statement.
      simp only [List.cons_append, emissions, ih]
      cases d <;> simp [Deed.record, Deed.seal?, List.findSome?_append, -Option.or_some]
    | _ => exact ih

theorem namings_append (ds es : List Deed) (next : Nat) :
    namings next (ds ++ es) = namings next ds ++ namings (next + ds.countP Deed.opens) es := by
  induction ds generalizing next with
  | nil => rfl
  | cons d ds ih =>
    rcases d with (_ | iri) | ⟨slot, iri⟩ | st | name <;>
      simp [namings, ih, List.countP_cons, Deed.opens, Nat.add_comm 1, Nat.add_assoc]

/-- A deed gives a slot its name, or leaves the slot as it is. -/
theorem name?_append (v : Naming) (ds : List Deed) (d : Deed) (slot : Nat) :
    name? ⟨v, ds ++ [d]⟩ slot = match d with
      | .opened (some iri) => if slot = ds.countP Deed.opens then some iri else name? ⟨v, ds⟩ slot
      | .identified slot' iri => if slot = slot' then some iri else name? ⟨v, ds⟩ slot
      | _ => name? ⟨v, ds⟩ slot := by
  rcases d with (_ | iri) | ⟨slot', iri⟩ | st | name <;>
    simp [name?, namings_append, namings, List.lookup_cons] <;> split <;> simp_all

theorem slotCount_append (v : Naming) (ds : List Deed) (d : Deed) :
    slotCount ⟨v, ds ++ [d]⟩ = slotCount ⟨v, ds⟩ + if d.opens then 1 else 0 := by
  simp [slotCount, List.countP_append, List.countP_singleton]

end Log

/-! ## The graph keeps to its log -/

/-- The graph holds what the log says: the same slots with the same names, and the same statements in
the same graphs. -/
structure Refines (g : Graph) (l : Log) : Prop where
  naming : g.toNaming = l.toNaming
  count : g.slots.size = l.slotCount
  name : ∀ slot, g.slots[slot]?.join = l.name? slot
  emissions : g.emissions = Log.emissions l.deeds

namespace Refines

variable {g : Graph} {l : Log}

theorem fresh (v : Naming) (format : OutputFormat) :
    Refines { toNaming := v, format := format } ⟨v, []⟩ :=
  ⟨rfl, rfl, fun _ => rfl, rfl⟩

theorem enact (h : Refines g l) {d : Deed} (hd : d.Fits g.slots.size) :
    Refines (g.enact d) { l with deeds := l.deeds ++ [d] } where
  naming := (g.enact_toNaming d).trans h.naming
  count := by rw [Graph.enact_slots_size, Log.slotCount_append, h.count]
  name slot := by
    have hname := h.name slot
    have hcount : l.deeds.countP Deed.opens = g.slots.size := h.count.symm
    rw [Log.name?_append, hcount, ← hname]
    rcases d with (_ | iri) | ⟨slot', iri⟩ | st | name
    · simp only [Graph.enact, Array.getElem?_push]
      split <;> simp_all
    · simp only [Graph.enact, Array.getElem?_push]
      split <;> simp_all
    · simp only [Graph.enact, Array.getElem?_setIfInBounds]
      have hslot : slot' < g.slots.size := hd
      by_cases hs : slot' = slot
      · subst hs
        simp [hslot]
      · simp [hs, Ne.symm hs]
    · rfl
    · rfl
  emissions := by rw [Graph.enact_emissions, Log.emissions_append, h.emissions]

theorem enactAll (h : Refines g l) {ds : List Deed} (hds : ∀ d ∈ ds, d.Fits g.slots.size) :
    Refines (g.enactAll ds) { l with deeds := l.deeds ++ ds } := by
  induction ds generalizing g l with
  | nil => simpa using h
  | cons d ds ih =>
    have hfit : ∀ e ∈ ds, e.Fits (g.enact d).slots.size := by
      intro e he
      have hle : g.slots.size ≤ (g.enact d).slots.size := by
        rw [Graph.enact_slots_size]
        exact Nat.le_add_right _ _
      have := hds e (List.mem_cons_of_mem d he)
      cases e <;> simp only [Deed.Fits] at this ⊢
      exact Nat.lt_of_lt_of_le this hle
    have := ih (h.enact (hds d List.mem_cons_self)) hfit
    simpa using this

end Refines

/-- A call names slots that are open. -/
theorem Naming.deeds_fit {v : Naming} {slots : Nat} {c : GraphCall} {r : Option Nat × List Deed}
    (h : v.deeds slots c = .ok r) : ∀ d ∈ r.2, d.Fits slots := by
  cases c with
  | identify handle id =>
    simp only [Naming.deeds, slotOf] at h
    split at h
    · cases hi : v.shortIri id with
      | error e => simp [hi, bind, Except.bind] at h
      | ok iri =>
        simp only [hi, bind, Except.bind, pure, Except.pure, Except.ok.injEq] at h
        subst h
        simpa [Deed.Fits]
    · cases h
  | addResource => cases h; simp [Deed.Fits]
  | _ =>
    simp only [Naming.deeds, bind, Except.bind] at h
    repeat' split at h
    all_goals cases h
    all_goals simp [Deed.Fits]

/-- A call has the same answer from both, and keeps the graph to the log. -/
theorem Refines.call {g : Graph} {l : Log} (h : Refines g l) (c : GraphCall) :
    (g.call c).map (·.1) = (l.call c).map (·.1) ∧ Refines (g.after c) (l.after c) := by
  have hg := g.call_eq c
  have hl : l.call c = (g.toNaming.deeds g.slots.size c).map
      fun r => (r.1, { l with deeds := l.deeds ++ r.2 }) := by
    rw [Log.call, h.naming, h.count]
  cases hd : g.toNaming.deeds g.slots.size c with
  | error e =>
    rw [hd] at hg hl
    rw [Graph.after, Log.after, hg, hl]
    exact ⟨rfl, h⟩
  | ok r =>
    rw [hd] at hg hl
    rw [Graph.after, Log.after, hg, hl]
    exact ⟨rfl, h.enactAll (Naming.deeds_fit hd)⟩

theorem Refines.afterAll {g : Graph} {l : Log} (h : Refines g l) (calls : List GraphCall) :
    g.answers calls = l.answers calls ∧ Refines (g.afterAll calls) (l.afterAll calls) := by
  induction calls generalizing g l with
  | nil => exact ⟨rfl, h⟩
  | cons c rest ih =>
    obtain ⟨hanswer, hafter⟩ := h.call c
    obtain ⟨hanswers, hrest⟩ := ih hafter
    exact ⟨by rw [Graph.answers, Log.answers, hanswer, hanswers], hrest⟩

theorem Refines.subject {g : Graph} {l : Log} (h : Refines g l) (slot : Nat) :
    g.subject slot = l.subject slot := by
  rw [Graph.subject, Log.subject, ← h.name slot]
  rcases g.slots[slot]? with _ | _ | iri <;> rfl

theorem Refines.quads {g : Graph} {l : Log} (h : Refines g l) : g.quads = l.quads := by
  have hterm : ∀ o, g.term o = l.term o := by
    intro o
    cases o with
    | slot n => exact congrArg Rdf.Term.node (h.subject n)
    | iri iri => rfl
    | literal x => rfl
  rw [Graph.quads_eq, Log.quads, h.emissions]
  refine List.map_congr_left fun e _ => ?_
  rw [Graph.quad, Graph.triple, h.subject, hterm]

/-- Giving a slot a name keeps the statements and their graphs, and what the other slots stand for. -/
theorem Graph.identify_keeps {g g' : Graph} {handle : Nat} {id : ShortIri}
    (h : g.identify handle id = .ok g') :
    g'.emissions = g.emissions ∧ ∀ slot, slot ≠ handle → g'.subject slot = g.subject slot := by
  have hcall : g.call (.identify handle id) = .ok (none, g') := by rw [Graph.call, h]; rfl
  simp only [Graph.call_eq, Naming.deeds, slotOf] at hcall
  split at hcall
  · cases hi : g.shortIri id with
    | error e => simp [hi, bind, Except.bind, Except.map] at hcall
    | ok iri =>
      simp only [hi, bind, Except.bind, pure, Except.pure, Except.map, Except.ok.injEq,
        Prod.mk.injEq] at hcall
      obtain ⟨-, rfl⟩ := hcall
      refine ⟨rfl, fun slot hs => ?_⟩
      simp [Graph.subject, Graph.enact, Ne.symm hs]
  · cases hcall

/-- After any calls on a new graph, failing ones included, the graph has given the answers of the log
and lists its statements: each once and in order, in the graph that was sealed next after it, about
the last name that the slot was given at any time, or else about a blank node of its own. Naming
one more slot touches no other slot and no statement. -/
theorem quads_eq_log (v : Naming) (format : OutputFormat) (calls : List GraphCall) :
    let fresh : Graph := { toNaming := v, format := format }
    let start : Log := ⟨v, []⟩
    let g := fresh.afterAll calls
    let l := start.afterAll calls
    fresh.answers calls = start.answers calls ∧
    g.quads = l.quads ∧
    (∀ a b, a ≠ b → l.name? a = none → l.name? b = none → g.subject a ≠ g.subject b) ∧
    (∀ handle id g', g.identify handle id = .ok g' →
      (∀ slot, slot ≠ handle → g'.subject slot = g.subject slot) ∧
      g.quads = (Log.emissions l.deeds).map (fun e => g.quad e.2 e.1) ∧
      g'.quads = (Log.emissions l.deeds).map (fun e => g'.quad e.2 e.1)) ∧
    g.size = g.quads.length ∧
    g.triples = g.quads.map (·.toTriple) := by
  intro fresh start g l
  obtain ⟨hanswers, href⟩ := (Refines.fresh v format).afterAll calls
  refine ⟨hanswers, href.quads, fun a b hab ha hb => ?_, fun handle id g' hid => ?_,
    g.size_eq, g.triples_eq⟩
  · rw [href.subject, href.subject, Log.subject, Log.subject, ha, hb]
    simpa using hab
  · obtain ⟨hemissions, hsubject⟩ := Graph.identify_keeps hid
    exact ⟨hsubject, by rw [← href.emissions, g.quads_eq],
      by rw [← href.emissions, ← hemissions, g'.quads_eq]⟩

end Triplify
