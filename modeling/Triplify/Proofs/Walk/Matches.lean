import Triplify.Proofs.Graph.Growth
import Triplify.Proofs.Walk.Calls
import Triplify.Proofs.XPath.Reading
/-!
# Graphs of matches

A mapping that names a graph carries out its children at each match and then names the graph of that
match. Naming moves all statements that are in no named graph yet. Where it fails, they are left for
the next one.

`runMapping_graphs`: which naming moves a statement that is made for a match.
-/

namespace Triplify.Mapping

/-- What a mapping does at a match: the state in which it comes there, the state after its children,
how naming the graph ends, and the state after that. -/
structure Visit where
  data : XPath.NodeRef
  start : RunState
  done : RunState
  outcome : Except MappingError Unit
  after : RunState

/-- A mapping that begins in a state does so at the match of an index. All matches before it have been
gone through. -/
structure Visits (s : Setting) (levels : Nat) (n : Node) (nodes : List XPath.NodeRef)
    (st : RunState) (i : Nat) (v : Visit) : Prop where
  data : nodes[i]? = some v.data
  start : (runMatches s (runChildren s levels) n (nodes.take i)).exec st = (.ok (), v.start)
  children : (runChildren s levels n v.data).exec v.start = (.ok (), v.done)
  naming : (Run.guarded n (assignGraph s n v.data)).exec v.done = (.ok v.outcome, v.after)

/-- What a mapping does at a data node that it comes to in a state. -/
def visitAt (s : Setting) (levels : Nat) (n : Node) (data : XPath.NodeRef) (start : RunState) :
    Visit :=
  let done := ((runChildren s levels n data).exec start).2
  { data := data
    start := start
    done := done
    outcome := ((assignGraph s n data).exec done).1
    after := ((Run.guarded n (assignGraph s n data)).exec done).2 }

/-- A statement is made while the children run. -/
def Visit.Makes (v : Visit) (t : Nat) : Prop := v.start.graph.size ≤ t ∧ t < v.done.graph.size

/-- Naming the graph of the match moves a statement there. -/
def Visit.Moves (v : Visit) (t : Nat) : Prop :=
  v.done.graph.graphOf? t = some none ∧ ∃ name, v.after.graph.graphOf? t = some (some name)

/-! ## Naming a graph -/

theorem Bounds.check_one {key template : String} {found : Nat}
    (h : Bounds.one.check key template found = .ok ()) : found = 1 := by
  have hcheck : Bounds.one.check key template found =
      if found < 1 then .error (.tooFewValues key template 1 found)
      else if 1 < found then .error (.tooManyValues key template 1 found) else .ok () := rfl
  rw [hcheck] at h
  by_cases hfew : found < 1
  · rw [if_pos hfew] at h
    cases h
  · by_cases hmany : 1 < found
    · rw [if_neg hfew, if_pos hmany] at h
      cases h
    · omega

theorem values_one {env : XPath.Environment} {r : Registries} {data : XPath.NodeRef} {n : Node}
    {key : String} {t : Option Transform} {vs : List String}
    (h : values env r data n key t .one = .ok vs) : ∃ v, vs = [v] := by
  unfold values at h
  split at h
  · cases h
  · next text _ =>
    cases hvs : templateValues env r data key text t ((n.get? "prefix").getD "") with
    | error e =>
      rw [hvs] at h
      cases h
    | ok found =>
      rw [hvs] at h
      cases hcheck : Bounds.one.check key text found.length with
      | error e => simp [hcheck, bind, Except.bind] at h
      | ok _ =>
        simp only [hcheck, bind, Except.bind, pure, Except.pure, Except.ok.injEq] at h
        exact h ▸ List.length_eq_one_iff.1 (Bounds.check_one hcheck)

theorem exec_sealAs (name : String) (st : RunState) :
    (∃ e, (Run.edit (.sealAs name)).exec st = (.error e, st)) ∨
      ∃ iri, (Run.edit (.sealAs name)).exec st =
        (.ok (), { st with graph := st.graph.enact (.sealed iri) }) := by
  have hedit : (GraphEdit.sealAs name).exec st.graph =
      st.graph.outcome (st.graph.resolve name >>= fun iri => .ok ((), [.sealed iri])) :=
    GraphEdit.exec_look_bind (·.resolve name) fun iri => rfl
  rw [Run.exec_edit, hedit]
  cases st.graph.resolve name with
  | error e => exact .inl ⟨e, rfl⟩
  | ok iri => exact .inr ⟨iri, rfl⟩

/-- Naming the graph of a match seals one graph, or fails and changes nothing. -/
theorem exec_assignGraph (s : Setting) (n : Node) (data : XPath.NodeRef) (st : RunState) :
    (∃ e, (assignGraph s n data).exec st = (.error e, st)) ∨
      ∃ iri, (assignGraph s n data).exec st =
        (.ok (), { st with graph := st.graph.enact (.sealed iri) }) := by
  have hread : (Run.valuesOf s data n "namedgraph" none .one).exec st =
      (values s.paths st.registries data n "namedgraph" none .one, st) :=
    Run.exec_ofExcept (values s.paths st.registries data n "namedgraph" none .one) st
  unfold assignGraph
  cases hvs : values s.paths st.registries data n "namedgraph" none .one with
  | error e =>
    rw [hvs] at hread
    exact .inl ⟨e, Run.exec_bind_error hread _⟩
  | ok vs =>
    rw [hvs] at hread
    obtain ⟨name, rfl⟩ := values_one hvs
    rw [Run.exec_bind_ok hread]
    exact exec_sealAs (Sanitize.uri name) st

/-- A failure to name a graph is recorded, and the mapping goes on. -/
theorem exec_naming (s : Setting) (n : Node) (data : XPath.NodeRef) (st : RunState) :
    (Run.guarded n (assignGraph s n data)).exec st = (.ok ((assignGraph s n data).exec st).1,
      ((Run.guarded n (assignGraph s n data)).exec st).2) := by
  have hstep := (assignGraph_step s n data).recoverable st
  rcases hnaming : (assignGraph s n data).exec st with ⟨e | _, st'⟩
  · rw [hnaming] at hstep
    rw [Run.exec_guarded_error n hnaming (Recoverable.error.1 hstep)]
  · rw [Run.exec_guarded_ok n hnaming]

namespace Visits

variable {s : Setting} {levels : Nat} {l : Located} {nodes : List XPath.NodeRef} {st : RunState}
  {i j : Nat} {a b v : Visit}

/-- A mapping that comes to a match, and whose children do not fail for good there, does so. -/
theorem of_start {n : Node} {data : XPath.NodeRef} {start : RunState} (hdata : nodes[i]? = some data)
    (hstart : (runMatches s (runChildren s levels) n (nodes.take i)).exec st = (.ok (), start))
    (hchildren : ((runChildren s levels n data).exec start).1 = .ok ()) :
    Visits s levels n nodes st i (visitAt s levels n data start) :=
  ⟨hdata, hstart, Prod.ext hchildren rfl, exec_naming s n data _⟩

theorem naming_cases {n : Node} (h : Visits s levels n nodes st i v) :
    (v.outcome = .ok () ∧ ∃ iri, v.after.graph = v.done.graph.enact (.sealed iri)) ∨
      (v.outcome ≠ .ok () ∧ v.after.graph = v.done.graph) := by
  have hnaming := h.naming
  rcases exec_assignGraph s n v.data v.done with ⟨e, he⟩ | ⟨iri, hiri⟩
  · have hrecovers : e.isFatal = false := by
      have hstep := (assignGraph_step s n v.data).recoverable v.done
      rw [he] at hstep
      exact Recoverable.error.1 hstep
    rw [Run.exec_guarded_error n he hrecovers] at hnaming
    obtain ⟨houtcome, hafter⟩ := Prod.mk.inj hnaming
    refine .inr ⟨?_, by rw [← hafter]⟩
    rw [← Except.ok.inj houtcome]
    rintro ⟨⟩
  · rw [Run.exec_guarded_ok n hiri] at hnaming
    obtain ⟨houtcome, hafter⟩ := Prod.mk.inj hnaming
    exact .inl ⟨(Except.ok.inj houtcome).symm, iri, by rw [← hafter]⟩

/-- Naming moves the statements that are in no named graph, all of them, if it does not fail. -/
theorem moves_iff {n : Node} (h : Visits s levels n nodes st i v) (t : Nat) :
    v.Moves t ↔ v.outcome = .ok () ∧ v.done.graph.graphOf? t = some none := by
  rcases h.naming_cases with ⟨hok, iri, hafter⟩ | ⟨hfailed, hafter⟩
  · have hgrows := v.done.graph.grows_enact (.sealed iri)
    rw [Visit.Moves, hafter]
    constructor
    · rintro ⟨hloose, -⟩
      exact ⟨hok, hloose⟩
    · rintro ⟨-, hloose⟩
      exact ⟨hloose, iri, hgrows.graphOf? hloose⟩
  · rw [Visit.Moves, hafter]
    constructor
    · rintro ⟨hloose, name, hname⟩
      rw [hloose] at hname
      cases hname
    · rintro ⟨hok, -⟩
      exact (hfailed hok).elim

/-- A graph has been named after the children, if naming does not fail. -/
theorem names_after {n : Node} (h : Visits s levels n nodes st i v) (hok : v.outcome = .ok ()) :
    ∃ iri, v.after.graph.names = v.done.graph.names ++ [iri] := by
  rcases h.naming_cases with ⟨-, iri, hafter⟩ | ⟨hfailed, -⟩
  · exact ⟨iri, hafter ▸ (v.done.graph.grows_enact (.sealed iri)).names⟩
  · exact (hfailed hok).elim

end Visits

/-! ## From match to match -/

theorem runMatches_append (s : Setting) (body : Body) (n : Node) (xs ys : List XPath.NodeRef) :
    runMatches s body n (xs ++ ys) =
      (runMatches s body n xs >>= fun _ => runMatches s body n ys) := by
  induction xs with
  | nil =>
    rw [List.nil_append, runMatches, pure_bind]
  | cons x xs ih =>
    rw [List.cons_append, runMatches, runMatches, ih]
    split <;> simp only [bind_assoc]

theorem Reaches.grows {st st' : RunState} (h : Reaches st st') :
    ∃ later, st.graph.Grows later st'.graph := by
  obtain ⟨calls, hcalls⟩ := h
  rw [hcalls]
  exact st.graph.grows_afterAll calls

section
variable {s : Setting} {l : Located} (hl : l.StandsIn s.config.root)
include hl

theorem runChildren_grows (levels : Nat) (data : XPath.NodeRef) (st : RunState) :
    ∃ later, st.graph.Grows later ((runChildren s levels l.node data).exec st).2.graph :=
  ((Reaches.relation s).children levels l l data rfl rfl hl st).grows

theorem runMatches_grows (levels : Nat) (nodes : List XPath.NodeRef) (st : RunState) :
    ∃ later, st.graph.Grows later
      ((runMatches s (runChildren s levels) l.node nodes).exec st).2.graph :=
  ((Reaches.relation s).eachMatch ((Reaches.relation s).children levels) rfl hl nodes st).grows

end

namespace Visits

variable {s : Setting} {levels : Nat} {l : Located} {nodes : List XPath.NodeRef} {st : RunState}
  {i j : Nat} {a b v : Visit}

/-- After a match the mapping goes on with the next one. -/
theorem exec_after {n : Node} (h : Visits s levels n nodes st i v) (hgraph : n.has "namedgraph") :
    (runMatches s (runChildren s levels) n (nodes.take (i + 1))).exec st = (.ok (), v.after) := by
  have htake : nodes.take (i + 1) = nodes.take i ++ [v.data] := by
    rw [List.take_add_one, h.data]
    rfl
  rw [htake, runMatches_append, Run.exec_bind_ok h.start, runMatches, if_pos hgraph,
    Run.exec_bind_ok h.children, Run.exec_bind_ok h.naming]
  rfl

theorem unique {n : Node} (ha : Visits s levels n nodes st i a) (hb : Visits s levels n nodes st i b) :
    a = b := by
  obtain ⟨data, start, done, outcome, after⟩ := a
  obtain ⟨data', start', done', outcome', after'⟩ := b
  cases ha.data.symm.trans hb.data
  cases ha.start.symm.trans hb.start
  cases ha.children.symm.trans hb.children
  cases ha.naming.symm.trans hb.naming
  rfl

/-- From one match to a later one, graphs are named and statements are made. -/
theorem grows_between (hl : l.StandsIn s.config.root) (hgraph : l.node.has "namedgraph")
    (ha : Visits s levels l.node nodes st i a) (hb : Visits s levels l.node nodes st j b)
    (hij : i < j) : ∃ later, a.after.graph.Grows later b.start.graph := by
  have htake : nodes.take j = nodes.take (i + 1) ++ (nodes.take j).drop (i + 1) := by
    have hsplit := (List.take_append_drop (i + 1) (nodes.take j)).symm
    rwa [List.take_take, Nat.min_eq_left hij] at hsplit
  have hstart := hb.start
  rw [htake, runMatches_append, Run.exec_bind_ok (ha.exec_after hgraph)] at hstart
  have hgrows := runMatches_grows hl levels ((nodes.take j).drop (i + 1)) a.after
  rwa [hstart] at hgrows

theorem grows_children (hl : l.StandsIn s.config.root) (h : Visits s levels l.node nodes st i v) :
    ∃ later, v.start.graph.Grows later v.done.graph := by
  have hgrows := runChildren_grows hl levels v.data v.start
  rwa [h.children] at hgrows

theorem grows_naming {n : Node} (h : Visits s levels n nodes st i v) :
    ∃ later, v.done.graph.Grows later v.after.graph := by
  rcases h.naming_cases with ⟨-, iri, hafter⟩ | ⟨-, hafter⟩
  · exact ⟨_, hafter ▸ v.done.graph.grows_enact (.sealed iri)⟩
  · exact ⟨[], hafter ▸ .refl v.done.graph⟩

/-- From the children of one match to those of a later one, or of the same. -/
theorem grows_to_done (hl : l.StandsIn s.config.root) (hgraph : l.node.has "namedgraph")
    (ha : Visits s levels l.node nodes st i a) (hb : Visits s levels l.node nodes st j b)
    (hij : i ≤ j) : ∃ later, a.done.graph.Grows later b.done.graph := by
  rcases Nat.lt_or_eq_of_le hij with hlt | rfl
  · obtain ⟨_, hnaming⟩ := ha.grows_naming
    obtain ⟨_, hbetween⟩ := ha.grows_between hl hgraph hb hlt
    obtain ⟨_, hchildren⟩ := hb.grows_children hl
    exact ⟨_, (hnaming.trans hbetween).trans hchildren⟩
  · rw [ha.unique hb]
    exact ⟨[], .refl b.done.graph⟩

/-- The mapping goes on from a match to its end, whether it fails there or not. -/
theorem grows_to_end (hl : l.StandsIn s.config.root) (hgraph : l.node.has "namedgraph")
    (h : Visits s levels l.node nodes st i v) : ∃ later, v.after.graph.Grows later
      ((runMatches s (runChildren s levels) l.node nodes).exec st).2.graph := by
  have hgrows := runMatches_grows hl levels (nodes.drop (i + 1)) v.after
  have hend : (runMatches s (runChildren s levels) l.node nodes).exec st =
      (runMatches s (runChildren s levels) l.node (nodes.drop (i + 1))).exec v.after := by
    rw [← Run.exec_bind_ok (h.exec_after hgraph) (fun _ => runMatches s _ l.node _),
      ← runMatches_append, List.take_append_drop]
  rwa [hend]

end Visits

/-! ## Graphs of matches -/

/-- Selecting nodes changes nothing, so that the mapping begins its matches where it began. -/
theorem exec_runMapping {s : Setting} {body : Body} {n : Node} {data : XPath.NodeRef} {st : RunState}
    {nodes : List XPath.NodeRef} (h : ((selected s n data).exec st).1 = .ok nodes) :
    (runMapping s body n data).exec st = (runMatches s body n nodes).exec st := by
  have hstep : Step (fun _ => False) (selected s n data) := selected_step s n data
  have hstate : ((selected s n data).exec st).2 = st :=
    hstep.keeps (R := fun a b => b = a) (fun _ => rfl) (fun h h' => h'.trans h)
      (fun _ _ _ hc _ => hc.elim) (fun hc _ _ => hc.elim) (fun hc _ => hc.elim) st
  exact Run.exec_bind_ok (Prod.ext h hstate) _

/-- Of a mapping that names graphs, wherever it stands and in whatever state it begins: a statement
that is made while the children run for a match is moved by the naming for another match, or for the
same, exactly if that match does not come before, its naming does not fail, and no graph has been
named since the statement was left without one. So it is never moved for another match if naming
does not fail for its own. Once it is in a named graph, it stays there. -/
theorem runMapping_graphs (s : Setting) (levels : Nat) {l : Located}
    (hl : l.StandsIn s.config.root) (hgraph : l.node.has "namedgraph") {data : XPath.NodeRef}
    {st : RunState} {nodes : List XPath.NodeRef}
    (hnodes : ((selected s l.node data).exec st).1 = .ok nodes) {i j : Nat} {a b : Visit}
    (ha : Visits s levels l.node nodes st i a) (hb : Visits s levels l.node nodes st j b) {t : Nat}
    (ht : a.Makes t) :
    let mapped := ((runMapping s (runChildren s levels) l.node data).exec st).2.graph
    (b.Moves t ↔ i ≤ j ∧ b.outcome = .ok () ∧ a.done.graph.graphOf? t = some none ∧
        b.done.graph.names = a.done.graph.names) ∧
      (a.outcome = .ok () → i ≠ j → ¬ b.Moves t) ∧
      ∀ name calls, b.after.graph.graphOf? t = some (some name) →
        (mapped.afterAll calls).graphOf? t = some (some name) := by
  intro mapped
  obtain ⟨hfrom, hto⟩ := ht
  have hiff : b.Moves t ↔ i ≤ j ∧ b.outcome = .ok () ∧ a.done.graph.graphOf? t = some none ∧
      b.done.graph.names = a.done.graph.names := by
    rw [hb.moves_iff]
    rcases Nat.lt_or_ge j i with hji | hij
    -- The naming comes before the statement, which is not there yet.
    · obtain ⟨_, hnaming⟩ := hb.grows_naming
      obtain ⟨_, hbetween⟩ := hb.grows_between hl hgraph ha hji
      have hsize : b.done.graph.size ≤ t :=
        Nat.le_trans (Nat.le_trans hnaming.size_le hbetween.size_le) hfrom
      constructor
      · rintro ⟨-, hloose⟩
        exact absurd (Graph.lt_of_graphOf? hloose) (Nat.not_lt.2 hsize)
      · rintro ⟨hij, -⟩
        omega
    · obtain ⟨later, hgrows⟩ := ha.grows_to_done hl hgraph hb hij
      rw [hgrows.graphOf?_eq_none hto]
      constructor
      · rintro ⟨hok, hloose, hnames⟩
        exact ⟨hij, hok, hloose, hnames⟩
      · rintro ⟨-, hok, hloose, hnames⟩
        exact ⟨hok, hloose, hnames⟩
  refine ⟨hiff, fun hok hne hmoves => ?_, ?_⟩
  -- Its own naming has named a graph since, so that no later one finds the statement without one.
  · obtain ⟨hij, -, -, hnames⟩ := hiff.1 hmoves
    obtain ⟨later, hbetween⟩ := ha.grows_between hl hgraph hb (by omega)
    obtain ⟨more, hchildren⟩ := hb.grows_children hl
    obtain ⟨iri, hafter⟩ := ha.names_after hok
    rw [(hbetween.trans hchildren).names, hafter] at hnames
    have hlength := congrArg List.length hnames
    simp at hlength
  · intro name calls hname
    obtain ⟨later, hend⟩ := hb.grows_to_end hl hgraph
    obtain ⟨more, hcalls⟩ := mapped.grows_afterAll calls
    have hmapped : mapped =
        ((runMatches s (runChildren s levels) l.node nodes).exec st).2.graph :=
      congrArg (·.2.graph) (exec_runMapping hnodes)
    rw [← hmapped] at hend
    exact (hend.trans hcalls).graphOf? hname

/-! ## A mapping that mixes graphs -/

/-- A mapping that names the graph of each child of an element after its attribute. -/
def listing : Node :=
  .mk .mapping "mapping" [("match", "*"), ("namedgraph", "urn:{@graph}")] [
    .mk .resource "resource" [] [
      .mk .triple "triple" [("predicate", "rdf:value"), ("value", "item")] [] "<triple/>"]
      "<resource/>"] "<mapping/>"

/-- An element with two items in it, of which only the second has an attribute. -/
def items : Xml.Document where
  nodes := #[
    ⟨.root, "", none, [1], [], 4, []⟩,
    ⟨.element ⟨none, "items", none⟩, "", some 0, [2, 3], [], 4, []⟩,
    ⟨.element ⟨none, "item", none⟩, "", some 1, [], [], 2, []⟩,
    ⟨.element ⟨none, "item", none⟩, "", some 1, [], [4], 4, []⟩,
    ⟨.attribute ⟨none, "graph", none⟩, "g", some 3, [], [], 4, []⟩]

/-- The mapping, for a document with two items. -/
def twoItems : Setting where
  config :=
    { root := .mk .mapping "config" [] [listing] "<config/>"
      namespaces := .standard
      warnings := [] }
  transforms := {}
  paths := ⟨items, []⟩

/-- A run that has done nothing yet. -/
def freshRun : RunState where
  graph := { namespaces := .standard, base := none, format := .turtle }

/-- What the mapping does at the first item. -/
def firstItem : Visit := visitAt twoItems 63 listing (.place 2) freshRun

/-- What the mapping does at the second item. -/
def secondItem : Visit := visitAt twoItems 63 listing (.place 3) firstItem.after

theorem twoItems_selected :
    ((selected twoItems listing (.place 1)).exec freshRun).1 = .ok [.place 2, .place 3] := by
  have hrequire : listing.require "match" = .ok "*" := rfl
  have htest : prepareMatch freshRun.registries "*" = .ok "*" :=
    prepareMatch_of_notMem freshRun.registries (by decide) rfl
  have hexpression : (Run.expression "*").exec freshRun = (.ok "*", freshRun) := by
    have hread : (Run.expression "*").exec freshRun =
        (Run.ofExcept (prepareMatch freshRun.registries "*")).exec freshRun := rfl
    rw [hread, htest, Run.exec_ofExcept]
  have hitems : (twoItems.paths.document.along .child (.place 1)).filter
      (twoItems.paths.document.passes twoItems.paths.namespaces .child .everyName) =
        [.place 2, .place 3] := rfl
  rw [selected, hrequire, Run.exec_bind_ok (Run.exec_ofExcept _ freshRun),
    Run.exec_bind_ok hexpression, XPath.Environment.select_star, hitems,
    XPath.NodeRef.inOrder_pair rfl (by decide), Run.exec_ofExcept]

/-- What the mapping has come to behind the children of each item, and after the second one. -/
theorem twoItems_run :
    ((runChildren twoItems 63 listing (.place 2)).exec freshRun).1.isOk ∧
      ((runChildren twoItems 63 listing (.place 3)).exec firstItem.after).1.isOk ∧
      (firstItem.start.graph.size ≤ 0 ∧ 0 < firstItem.done.graph.size) ∧
      secondItem.done.graph.graphOf? 0 = some none ∧
      secondItem.after.graph.graphOf? 0 = some (some "urn:g") := by
  decide +kernel

theorem twoItems_visits :
    Visits twoItems 63 listing [.place 2, .place 3] freshRun 0 firstItem ∧
      Visits twoItems 63 listing [.place 2, .place 3] freshRun 1 secondItem := by
  obtain ⟨hchildren, hothers, -⟩ := twoItems_run
  have hok : ∀ {r : Except MappingError Unit}, r.isOk → r = .ok () := by
    rintro (_ | _) h
    · cases h
    · rfl
  have hfirst : Visits twoItems 63 listing [.place 2, .place 3] freshRun 0 firstItem :=
    .of_start rfl rfl (hok hchildren)
  exact ⟨hfirst, .of_start rfl (hfirst.exec_after rfl) (hok hothers)⟩

/-- The graph of the first item is not named, and its statement ends up in that of the second. -/
theorem twoItems_mix :
    ((selected twoItems listing (.place 1)).exec freshRun).1 = .ok [.place 2, .place 3] ∧
      Visits twoItems 63 listing [.place 2, .place 3] freshRun 0 firstItem ∧
      Visits twoItems 63 listing [.place 2, .place 3] freshRun 1 secondItem ∧
      firstItem.Makes 0 ∧ secondItem.Moves 0 ∧
      secondItem.after.graph.graphOf? 0 = some (some "urn:g") := by
  obtain ⟨hfirst, hsecond⟩ := twoItems_visits
  obtain ⟨-, -, hmakes, hloose, hgraph⟩ := twoItems_run
  exact ⟨twoItems_selected, hfirst, hsecond, hmakes, ⟨hloose, _, hgraph⟩, hgraph⟩

theorem twoItems_graphs :
    let mapped := ((runMapping twoItems (runChildren twoItems 63) listing (.place 1)).exec
      freshRun).2.graph
    firstItem.Makes 0 ∧ firstItem.outcome ≠ .ok () ∧
      (secondItem.Moves 0 ↔ 0 ≤ 1 ∧ secondItem.outcome = .ok () ∧
        firstItem.done.graph.graphOf? 0 = some none ∧
        secondItem.done.graph.names = firstItem.done.graph.names) ∧
      ∀ calls, (mapped.afterAll calls).graphOf? 0 = some (some "urn:g") := by
  obtain ⟨hfirst, hsecond⟩ := twoItems_visits
  obtain ⟨-, -, hmakes, hloose, hgraph⟩ := twoItems_run
  have hstands : Located.StandsIn twoItems.config.root ⟨[0], listing⟩ := rfl
  obtain ⟨hmoves, hown, hstays⟩ :=
    runMapping_graphs twoItems 63 hstands rfl twoItems_selected hfirst hsecond hmakes
  refine ⟨hmakes, fun hok => ?_, hmoves, fun calls => hstays _ calls hgraph⟩
  exact hown hok (by decide) ⟨hloose, _, hgraph⟩

end Triplify.Mapping
