import Triplify.Proofs.Graph.Iris
import Triplify.Proofs.Sanitize.Literal
import Triplify.Proofs.Walk.Identity
/-!
# Literals of a run

Only a `<triple>` node makes statements with literals. Each of its literals is one of its values, trimmed
and then without control characters, and none is empty.

`literals_are_sanitized`: so it is in every run, and such a literal is clean unless its value hides white
space behind control characters. `hiddenBlank_is_stated`: then it may even be blank.
-/

namespace Triplify

/-! ## The text of a literal -/

namespace Sanitize

/-- The text of a literal is that of a value, trimmed and then without control characters. It is not empty,
and it is clean unless the value hides white space at one of its ends. -/
structure LiteralOf (value text : String) : Prop where
  eq : text = literal (Text.trim value)
  nonempty : text ≠ ""
  kept : ∀ c ∈ text.toList, isStripped c = false
  clean_iff : IsClean text ↔
    ¬ HidesBlank (Text.trimChars value.toList) ∧ ¬ HidesBlank (Text.trimChars value.toList).reverse

theorem literalOf_trim {value : String} (h : literal (Text.trim value) ≠ "") :
    LiteralOf value (literal (Text.trim value)) :=
  ⟨rfl, h, kept_literal _, literal_isClean_iff value h⟩

end Sanitize

/-! ## What is added to a graph -/

variable {P : String → Prop}

/-- The object of a statement is no literal, or one whose text has a property. -/
def GraphStatement.Writes (P : String → Prop) (x : GraphStatement) : Prop :=
  ∀ l, x.object = .literal l → P l.text

/-- A call makes no literal, or one whose text has a property. -/
def GraphCall.Writes (P : String → Prop) : GraphCall → Prop
  | .addLiteral _ _ text _ => P text
  | _ => True

theorem Naming.deeds_write {v : Naming} {slots : Nat} {c : GraphCall} {r : Option Nat × List Deed}
    (h : v.deeds slots c = .ok r) (hc : c.Writes P) :
    ∀ x ∈ r.2.filterMap Deed.statement?, x.Writes P := by
  -- Apart from a call that makes a literal, the objects are IRIs and slots.
  have hone : ∀ {x y : GraphStatement}, y.Writes P → x ∈ [y] → x.Writes P := by
    intro x y hy hx
    cases List.mem_singleton.1 hx
    exact hy
  intro x hx
  cases c with
  | addResource =>
    cases h
    cases hx
  | addNamed id =>
    obtain ⟨iri, -, h⟩ := of_bind_ok h
    cases h
    cases hx
  | identify handle id =>
    obtain ⟨slot, -, h⟩ := of_bind_ok h
    obtain ⟨iri, -, h⟩ := of_bind_ok h
    cases h
    cases hx
  | addObject handle predicate object =>
    obtain ⟨slot, -, h⟩ := of_bind_ok h
    obtain ⟨predicate, -, h⟩ := of_bind_ok h
    obtain ⟨object, -, h⟩ := of_bind_ok h
    cases h
    refine hone ?_ hx
    intro l hl
    cases hl
  | addLiteral handle predicate text kind =>
    obtain ⟨slot, -, h⟩ := of_bind_ok h
    obtain ⟨predicate, -, h⟩ := of_bind_ok h
    obtain ⟨l, hl, h⟩ := of_bind_ok h
    cases h
    refine hone ?_ hx
    intro l' hl'
    cases hl'
    rw [(Naming.literal_ok hl).1]
    exact hc
  | addBlank type =>
    obtain ⟨iri, -, h⟩ := of_bind_ok h
    cases h
    refine hone ?_ hx
    intro l hl
    cases hl
  | link handle predicate target =>
    obtain ⟨slot, -, h⟩ := of_bind_ok h
    obtain ⟨target, -, h⟩ := of_bind_ok h
    obtain ⟨predicate, -, h⟩ := of_bind_ok h
    cases h
    refine hone ?_ hx
    intro l hl
    cases hl
  | sealAs name =>
    obtain ⟨iri, -, h⟩ := of_bind_ok h
    cases h
    cases hx

namespace Graph

/-- The statements of a graph, and after them others whose literals have texts with a property. -/
def Pushes (P : String → Prop) (g g' : Graph) : Prop :=
  ∃ pushed, g'.statements = g.statements ++ pushed ∧ ∀ x ∈ pushed, x.Writes P

namespace Pushes

variable {g g' g'' : Graph}

theorem refl (g : Graph) : Pushes P g g := ⟨[], by simp, List.forall_mem_nil _⟩

theorem trans (h : Pushes P g g') (h' : Pushes P g' g'') : Pushes P g g'' := by
  obtain ⟨first, hfirst, hwrites⟩ := h
  obtain ⟨second, hsecond, hwrites'⟩ := h'
  exact ⟨first ++ second, by rw [hsecond, hfirst, List.append_assoc],
    List.forall_mem_append.2 ⟨hwrites, hwrites'⟩⟩

theorem mono {Q : String → Prop} (h : Pushes P g g') (hPQ : ∀ text, P text → Q text) :
    Pushes Q g g' := by
  obtain ⟨pushed, heq, hwrites⟩ := h
  exact ⟨pushed, heq, fun x hx l hl => hPQ _ (hwrites x hx l hl)⟩

/-- The later statements are the first ones and those that are left without them. -/
theorem split (h : Pushes P g g') :
    g'.statements = g.statements ++ g'.statements.drop g.statements.length := by
  obtain ⟨pushed, heq, -⟩ := h
  rw [heq, List.drop_left]

theorem pushed (h : Pushes P g g') :
    ∀ x ∈ g'.statements.drop g.statements.length, x.Writes P := by
  obtain ⟨pushed, heq, hwrites⟩ := h
  rwa [heq, List.drop_left]

theorem enactAll {c : GraphCall} {r : Option Nat × List Deed}
    (h : g.deeds g.slots.size c = .ok r) (hc : c.Writes P) : Pushes P g (g.enactAll r.2) :=
  ⟨_, g.enactAll_statements r.2, Naming.deeds_write h hc⟩

end Pushes

end Graph

namespace Mapping

/-! ## Literals of single acts -/

/-- Statements, of which those with literals have texts with a property, and nothing else. -/
def LiteralsOnly (P : String → Prop) : Change → Prop
  | .graph (.addObject ..) => True
  | .graph (.addLiteral _ _ text _) => P text
  | _ => False

theorem Step.pushes {α : Type} {m : Run α} (hm : Step (LiteralsOnly P) m) (st : RunState) :
    st.graph.Pushes P (m.exec st).2.graph := by
  refine hm.keeps (R := fun a b => a.graph.Pushes P b.graph) (fun _ => .refl _) .trans ?_
    (fun h => h.elim) (fun h => h.elim) st
  intro c st r hc hd
  refine .enactAll hd ?_
  cases c with
  | addLiteral handle predicate text kind => exact hc
  | _ => trivial

variable {s : Setting} {n : Node} {data : XPath.NodeRef} {st : RunState}

/-- A node that gives classes makes no literals. -/
theorem runType_literals (s : Setting) (n : Node) (data : XPath.NodeRef) :
    Step (LiteralsOnly P) (runType s n data) := by
  refine .bind (Run.subject_step n) fun handle => ?_
  refine .bind (Run.valuesOf_step s data n "value" none .some) fun vs => ?_
  exact addClasses_step s (fun _ => trivial) vs

/-- The text is a literal of a value that a node has at a data node. -/
def LiteralAt (s : Setting) (n : Node) (data : XPath.NodeRef) (r : Registries) (text : String) :
    Prop :=
  ∃ t vs, modifier s n = .ok t ∧ values s.paths r data n "value" t .any = .ok vs ∧
    ∃ value ∈ vs, Sanitize.LiteralOf value text

theorem pushes_reading {α β : Type} {m : Run α} {k : α → Run β} {r : Except MappingError α}
    (hm : m.exec st = (r, st))
    (hk : ∀ a, r = .ok a → st.graph.Pushes P ((k a).exec st).2.graph) :
    st.graph.Pushes P ((m >>= k).exec st).2.graph := by
  cases r with
  | error e =>
    rw [Run.exec_bind_error hm]
    exact .refl _
  | ok a =>
    rw [Run.exec_bind_ok hm]
    exact hk a rfl

/-- The literals of a `<triple>` node are those of its values. -/
theorem runTriple_pushes (s : Setting) (n : Node) (data : XPath.NodeRef) (st : RunState) :
    st.graph.Pushes (LiteralAt s n data st.registries) ((runTriple s n data).exec st).2.graph := by
  have hvalues : ∀ (key : String) (t : Option Transform), (Run.valuesOf s data n key t .any).exec st =
      (values s.paths st.registries data n key t .any, st) :=
    fun key t => Run.exec_ofExcept _ st
  refine pushes_reading (Run.exec_ofExcept _ st) fun predicate _ => ?_
  refine pushes_reading (exec_subject n st) fun handle _ => ?_
  refine pushes_reading (Run.exec_ofExcept _ st) fun t ht => ?_
  split
  · refine pushes_reading (hvalues "object" t) fun vs _ => ?_
    exact Step.pushes (addObjects_step s (fun _ => trivial) vs) st
  · refine pushes_reading (Run.exec_ofExcept _ st) fun _ _ => ?_
    refine pushes_reading (hvalues "value" t) fun vs hvs => ?_
    refine Step.pushes (addLiterals_step fun value hvalue hne => ?_) st
    exact ⟨t, vs, ht, hvs, value, hvalue, Sanitize.literalOf_trim hne⟩

/-! ## Literals of runs -/

/-- Only statements of a node may have literals. -/
theorem Act.May.writes {l : Located} {a : Act} {c : GraphCall} (h : a.May s l (.graph c))
    (htriple : a ≠ .triple) (htype : a ≠ .type) : c.Writes P := by
  cases c with
  | addLiteral handle predicate text kind =>
    cases a with
    | opens o => cases o <;> exact h.elim
    | triple => exact (htriple rfl).elim
    | type => exact (htype rfl).elim
    | _ => exact h.elim
  | _ => trivial

namespace Moment

/-- The statements that an act makes. -/
def pushed (s : Setting) (m : Moment) : List GraphStatement :=
  (m.after s).graph.statements.drop m.start.graph.statements.length

/-- The text is a literal of a value that the node of the act has, which is a `<triple>` node. -/
def Writes (s : Setting) (m : Moment) (text : String) : Prop :=
  m.caller.node.tag = .triple ∧ LiteralAt s m.caller.node m.data m.start.registries text

theorem pushes {m : Moment} (hm : s.Admits m.caller m.act) :
    m.start.graph.Pushes (m.Writes s) (m.after s).graph := by
  obtain ⟨f, l, a, data, st⟩ := m
  by_cases htriple : a = .triple
  · subst htriple
    have htag : l.node.tag = .triple := hm.fits
    exact (runTriple_pushes s l.node data st).mono fun text h => ⟨htag, h⟩
  by_cases htype : a = .type
  · subst htype
    exact (runType_literals s l.node data).pushes st
  exact hm.keeps (R := fun st st' => st.graph.Pushes _ st'.graph) (fun _ => .refl _) .trans
    (fun _ _ => .refl _) (fun _ _ _ hc hd => .enactAll hd (hc.writes htriple htype))
    (fun _ _ _ => .refl _) (fun _ _ => .refl _) data st

end Moment

/-- A run makes the statements of its acts, in order. -/
theorem Linked.statements {ms : List Moment} {st' : RunState} (h : Linked s st ms st')
    (hms : ∀ m ∈ ms, s.Admits m.caller m.act) :
    st'.graph.statements = st.graph.statements ++ ms.flatMap (·.pushed s) := by
  induction ms generalizing st with
  | nil =>
    rw [Alike.graph h]
    simp
  | cons m rest ih =>
    obtain ⟨hm, hrest⟩ := List.forall_mem_cons.1 hms
    have hafter : (m.after s).graph.statements = st.graph.statements ++ m.pushed s := by
      rw [← h.1.graph]
      exact (Moment.pushes hm).split
    rw [ih h.2 hrest, hafter, List.append_assoc, List.flatMap_cons]

/-- Whatever is mapped and how, the statements of a run are those of its acts. Each literal among them is
one of a `<triple>` node: a value of that node, trimmed and then without the control characters that
literals must not hold. It is not empty, it holds none of these characters, and it is not blank and has no
white space at its ends unless white space is hidden there behind control characters in the value. -/
theorem literals_are_sanitized (s : Setting) (g : Graph) (taken : Nat) :
    (runConfig s g taken).2.graph.statements =
        g.statements ++ (moments s g taken).flatMap (·.pushed s) ∧
      ∀ m ∈ moments s g taken, ∀ x ∈ m.pushed s, ∀ l, x.object = .literal l →
        m.caller.node.tag = .triple ∧
          ∃ t vs value, modifier s m.caller.node = .ok t ∧
            values s.paths m.start.registries m.data m.caller.node "value" t .any = .ok vs ∧
            value ∈ vs ∧ Sanitize.LiteralOf value l.text := by
  have hms := moments_admitted s g taken
  refine ⟨(linked_config s g taken).statements hms, fun m hm x hx l hl => ?_⟩
  obtain ⟨htag, t, vs, ht, hvs, value, hvalue, hof⟩ := (Moment.pushes (hms m hm)).pushed x hx l hl
  exact ⟨htag, t, vs, value, ht, hvs, hvalue, hof⟩

/-! ## A literal that is blank -/

/-- A mapping that makes a literal of the text of the document. -/
def textOnly (text : String) : Setting where
  config :=
    { root := .mk .mapping "config" [] [.mk .resource "resource" [] [
        .mk .triple "triple" [("predicate", "rdf:value"), ("value", "\x7b*\x7d")] [] "<triple/>"]
        "<resource/>"] "<config/>"
      namespaces := .standard
      warnings := [] }
  transforms := {}
  paths := ⟨(Xml.Document.ofText? text).getD ⟨#[]⟩, []⟩

/-- A space between two control characters is not trimmed, and it is all that is left of the text. -/
theorem hiddenBlank_is_stated :
    let g : Graph := { namespaces := .standard, base := some "http://base.org/", format := .nTriples }
    let text := "\x0e \x0e"
    (Xml.Document.ofText? ("<r>" ++ text ++ "</r>")).isSome ∧
      Sanitize.HidesBlank (Text.trimChars text.toList) ∧
      (runConfig (textOnly ("<r>" ++ text ++ "</r>")) g 0).2.graph.statements =
        [⟨0, rdfNamespace ++ "value", .literal ⟨" ", .plain⟩⟩] ∧
      Text.isBlankText " " ∧ ¬ Sanitize.IsClean " " := by
  intro g text
  have hblank : Text.isBlankText " " := by decide +kernel
  have hhides : Sanitize.HidesBlank (Text.trimChars text.toList) := by
    refine ⟨'\x0e', [], ' ', ['\x0e'], by decide +kernel, by decide +kernel, ?_, by decide +kernel,
      by decide +kernel⟩
    exact List.forall_mem_singleton.2 (by decide +kernel)
  refine ⟨by decide +kernel, hhides, by decide +kernel, hblank, fun h => ?_⟩
  cases h.notBlank.symm.trans hblank

end Mapping

end Triplify
