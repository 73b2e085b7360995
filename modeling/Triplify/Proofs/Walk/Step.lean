import Triplify.Proofs.Walk.Recoverable
/-!
# Steps of a node

What a node does on its own, apart from what its children do, is put together from a few parts: it
reads the registries and the subject, it calls on the graph, and it changes the registries or marks
the subject as named. `Step` says so for a step and for the changes that it may make.

There is one lemma for each step that the interpreter makes, `runTriple_step` and so on. All that the
other modules know of those steps follows from `Step` by induction.
-/

namespace Triplify.Mapping

/-- How the failure of a node is reported: with its tag and the text it was read from. -/
def Node.report (n : Node) (e : MappingError) : Diagnostic :=
  ⟨s!"Error in <{n.tag.text}> tag: {e.message}", some n.source⟩

/-- Diagnostics with the failure of a node as the last error. -/
def Node.reportIn (n : Node) (e : MappingError) (d : Diagnostics) : Diagnostics :=
  { d with errors := d.errors ++ [n.report e] }

namespace Run

variable {α β : Type}

theorem exec_pure (a : α) (st : RunState) : (pure a : Run α).exec st = (.ok a, st) := rfl

theorem exec_bind_ok {m : Run α} {st st' : RunState} {a : α} (h : m.exec st = (.ok a, st'))
    (k : α → Run β) : (m >>= k).exec st = (k a).exec st' := by
  have hbind : (m >>= k).exec st = ExceptT.bindCont k (m.exec st).1 (m.exec st).2 := rfl
  rw [hbind, h]
  rfl

theorem exec_bind_error {m : Run α} {st st' : RunState} {e : MappingError}
    (h : m.exec st = (.error e, st')) (k : α → Run β) : (m >>= k).exec st = (.error e, st') := by
  have hbind : (m >>= k).exec st = ExceptT.bindCont k (m.exec st).1 (m.exec st).2 := rfl
  rw [hbind, h]
  rfl

/-- A step that succeeds does so in both of its parts. -/
theorem of_exec_bind_ok {m : Run α} {k : α → Run β} {st st'' : RunState} {b : β}
    (h : (m >>= k).exec st = (.ok b, st'')) :
    ∃ a st', m.exec st = (.ok a, st') ∧ (k a).exec st' = (.ok b, st'') := by
  rcases hm : m.exec st with ⟨e | a, st'⟩
  · rw [exec_bind_error hm] at h
    cases h
  · rw [exec_bind_ok hm] at h
    exact ⟨a, st', rfl, h⟩

theorem exec_ofExcept (r : Except MappingError α) (st : RunState) :
    (ofExcept r).exec st = (r, st) := by
  cases r <;> rfl

theorem exec_within (inner : Context) (body : Run Unit) (st : RunState) :
    (within inner body).exec st =
      ((body.exec { st with context := inner }).1,
        { (body.exec { st with context := inner }).2 with context := st.context }) := rfl

theorem exec_recover_fatal {e : MappingError} (he : e.isFatal) (n : Node) (st : RunState) :
    (recover n e).exec st = (.error e, st) := by
  rw [recover, if_pos he]
  rfl

theorem exec_recover {e : MappingError} (he : e.isFatal = false) (n : Node) (st : RunState) :
    (recover n e).exec st = (.ok (), { st with diagnostics := n.reportIn e st.diagnostics }) := by
  rw [recover, if_neg (by simp [he])]
  rfl

section
variable {m : Run α} {st st' : RunState} {a : α} {e : MappingError} (n : Node)

theorem exec_attempt (m : Run α) (st : RunState) :
    (attempt m).exec st = (.ok (m.exec st).1, (m.exec st).2) := rfl

theorem exec_guarded_ok (h : m.exec st = (.ok a, st')) :
    (guarded n m).exec st = (.ok (.ok a), st') := by
  rw [guarded, exec_bind_ok (by rw [exec_attempt, h])]
  rfl

/-- An error that does not end the run is recorded, and the run goes on. -/
theorem exec_guarded_error (h : m.exec st = (.error e, st')) (he : e.isFatal = false) :
    (guarded n m).exec st =
      (.ok (.error e), { st' with diagnostics := n.reportIn e st'.diagnostics }) := by
  rw [guarded, exec_bind_ok (by rw [exec_attempt, h])]
  exact exec_bind_ok (exec_recover he n st') _

theorem exec_guarded_fatal (h : m.exec st = (.error e, st')) (he : e.isFatal) :
    (guarded n m).exec st = (.error e, st') := by
  rw [guarded, exec_bind_ok (by rw [exec_attempt, h])]
  exact exec_bind_error (exec_recover_fatal he n st') _

end

/-- Calls on the graph. -/
def call (c : GraphCall) : Run (Option Nat) := fun st =>
  match st.graph.call c with
  | .ok (answer, g) => (.ok answer, { st with graph := g })
  | .error e => (.error e, st)

theorem exec_call_of_ok {c : GraphCall} {st : RunState} {r : Option Nat × Graph}
    (h : st.graph.call c = .ok r) : (call c).exec st = (.ok r.1, { st with graph := r.2 }) := by
  simp only [exec, call, ExceptT.run, h]
  rfl

theorem exec_call_of_error {c : GraphCall} {st : RunState} {e : MappingError}
    (h : st.graph.call c = .error e) : (call c).exec st = (.error e, st) := by
  simp only [exec, call, ExceptT.run, h]
  rfl

/-- A call changes the graph as its deeds say. -/
theorem exec_call_ok {c : GraphCall} {st : RunState} {r : Option Nat × List Deed}
    (h : st.graph.deeds st.graph.slots.size c = .ok r) :
    (call c).exec st = (.ok r.1, { st with graph := st.graph.enactAll r.2 }) :=
  exec_call_of_ok (r := (r.1, st.graph.enactAll r.2)) (by rw [Graph.call_eq, h]; rfl)

theorem exec_call_error {c : GraphCall} {st : RunState} {e : MappingError}
    (h : st.graph.deeds st.graph.slots.size c = .error e) : (call c).exec st = (.error e, st) :=
  exec_call_of_error (by rw [Graph.call_eq, h]; rfl)

theorem exec_edit (step : GraphEdit α) (st : RunState) : (edit step).exec st =
    ((step.exec st.graph).1, { st with graph := (step.exec st.graph).2 }) := rfl

/-- A call that fails leaves the graph alone, so that editing in place is the same. -/
theorem edit_eq_call (c : GraphCall) : edit c.edit = call c := by
  funext st
  show (edit c.edit).exec st = (call c).exec st
  rw [exec_edit, GraphEdit.exec_edit]
  cases hd : st.graph.deeds st.graph.slots.size c with
  | ok r => exact (exec_call_ok hd).symm
  | error e => exact (exec_call_error hd).symm

theorem edit_bind {β : Type} (step : GraphEdit α) (k : α → GraphEdit β) :
    edit (step >>= k) = edit step >>= fun a => edit (k a) := by
  funext st
  show (edit (step >>= k)).exec st = (edit step >>= fun a => edit (k a)).exec st
  rcases h : step.exec st.graph with ⟨e | a, g⟩
  · rw [exec_edit, GraphEdit.exec_bind_error h, exec_bind_error (by rw [exec_edit, h])]
  · rw [exec_edit, GraphEdit.exec_bind_ok h, exec_bind_ok (by rw [exec_edit, h]), exec_edit]

end Run

/-- A test whose value is known. -/
theorem exec_conditionHolds {s : Setting} {n : Node} {data : XPath.NodeRef} {st : RunState}
    {raw expr : String} {v : XPath.Value} (hraw : n.require "match" = .ok raw)
    (hexpr : prepareMatch st.registries raw = .ok expr) (hv : s.paths.evaluate expr data = .ok v) :
    (conditionHolds s n data).exec st = (.ok v.isTruthy, st) := by
  have hread : (Run.expression raw).exec st = (.ok expr, st) := by
    have h : (Run.expression raw).exec st =
        (Run.ofExcept (prepareMatch st.registries raw)).exec st := rfl
    rw [h, hexpr, Run.exec_ofExcept]
  rw [conditionHolds, hraw, Run.exec_bind_ok (Run.exec_ofExcept _ st), Run.exec_bind_ok hread, hv,
    Run.exec_bind_ok (Run.exec_ofExcept _ st)]
  rfl

/-! ## What a step is made of -/

/-- Something that a step can change, or an error that it can fail with and that is not plain. -/
inductive Change
  | graph (c : GraphCall)
  | registries
  | named
  | failed (e : MappingError)

/-- A step that reads the registries and the subject, and makes no changes but the given ones. -/
inductive Step (may : Change → Prop) : {α : Type} → Run α → Prop
  | given {α : Type} (r : Except MappingError α) : Recoverable r →
      (∀ e, r = .error e → e.isPlain = false → may (.failed e)) → Step may (Run.ofExcept r)
  | read {α : Type} (k : Registries → Context → Run α) : (∀ r c, Step may (k r c)) →
      Step may (do let st ← get; k st.registries st.context)
  | call (c : GraphCall) : may (.graph c) → Step may (Run.call c)
  | registries (f : Registries → Registries) : may .registries →
      Step may (modify fun st => { st with registries := f st.registries })
  | named : may .named →
      Step may (modify fun st => { st with context := { st.context with hasIdentifier := true } })
  | bind {α β : Type} {m : Run α} {k : α → Run β} : Step may m → (∀ a, Step may (k a)) →
      Step may (m >>= k)

/-- Every change. -/
def AnyChange (_ : Change) : Prop := True

/-- A statement, and nothing else. -/
def StatementOnly : Change → Prop
  | .graph (.addObject ..) => True
  | .graph (.addLiteral ..) => True
  | _ => False

/-- Statements about one subject, and nothing else. -/
def StatementAbout (subject : Nat) : Change → Prop
  | .graph (.addObject handle _ _) => handle = subject
  | .graph (.addLiteral handle _ _ _) => handle = subject
  | _ => False

/-- A new subject, and nothing else. -/
def OpenOnly : Change → Prop
  | .graph .addResource => True
  | .graph (.addNamed _) => True
  | _ => False

/-- A new blank node that is linked to, and nothing else. -/
def BlankOnly : Change → Prop
  | .graph (.addBlank _) => True
  | .graph (.link ..) => True
  | _ => False

/-- A named graph, and nothing else. -/
def SealOnly : Change → Prop
  | .graph (.sealAs _) => True
  | _ => False

/-- The name of a subject, and nothing else. -/
def NameOnly : Change → Prop
  | .graph (.identify ..) => True
  | .named => True
  | _ => False

/-- The registries, and nothing else. -/
def RegistriesOnly : Change → Prop
  | .registries => True
  | _ => False

namespace Step

variable {may may' : Change → Prop} {α : Type}

theorem mono (h : ∀ c, may c → may' c) {m : Run α} (hm : Step may m) : Step may' m := by
  induction hm with
  | given r hr he => exact .given r hr fun e hr hplain => h _ (he e hr hplain)
  | read k _ ih => exact .read k ih
  | call c hc => exact .call c (h _ hc)
  | registries f hc => exact .registries f (h _ hc)
  | named hc => exact .named (h _ hc)
  | bind _ _ ihm ihk => exact .bind ihm ihk

theorem any {m : Run α} (hm : Step may m) : Step AnyChange m := hm.mono fun _ _ => trivial

theorem plain {r : Except MappingError α} (h : Plain r) : Step may (Run.ofExcept r) :=
  .given r h.recoverable fun e hr hplain => by
    rw [h e hr] at hplain
    cases hplain

theorem pure (a : α) : Step may (pure a) := plain (Plain.ok a)

theorem throw {e : MappingError} (h : e.isFatal = false) (hmay : may (.failed e)) :
    Step may (throw e : Run α) :=
  .given (.error e) (Recoverable.error.2 h) fun _ he _ => Except.error.inj he ▸ hmay

theorem build (c : GraphCall) {step : GraphEdit Unit} (hc : may (.graph c))
    (h : c.edit = do step; return none) : Step may (Run.edit step) := by
  have hstep : step = c.edit >>= fun _ => Pure.pure () := by simp [h]
  rw [hstep, Run.edit_bind, Run.edit_eq_call]
  exact .bind (.call c hc) fun _ => .pure _

theorem create (c : GraphCall) {step : GraphEdit Nat} (hc : may (.graph c))
    (h : c.edit = do return some (← step)) : Step may (Run.edit step) := by
  have hstep : step = c.edit >>= fun answer => Pure.pure (answer.getD 0) := by simp [h]
  rw [hstep, Run.edit_bind, Run.edit_eq_call]
  exact .bind (.call c hc) fun _ => .pure _

end Step

/-! ## What steps keep -/

namespace Step

variable {may : Change → Prop} {α : Type}

/-- What each part of a step keeps, the step keeps. -/
theorem keeps {R : RunState → RunState → Prop} (hrefl : ∀ st, R st st)
    (htrans : ∀ {a b c}, R a b → R b c → R a c)
    (hcall : ∀ c st r, may (.graph c) → st.graph.deeds st.graph.slots.size c = .ok r →
      R st { st with graph := st.graph.enactAll r.2 })
    (hregistries : may .registries → ∀ st r, R st { st with registries := r })
    (hnamed : may .named → ∀ st, R st { st with context := { st.context with hasIdentifier := true } })
    {m : Run α} (hm : Step may m) (st : RunState) : R st (m.exec st).2 := by
  induction hm generalizing st with
  | given r hr =>
    rw [Run.exec_ofExcept]
    exact hrefl st
  | read k _ ih => exact ih _ _ st
  | call c hc =>
    cases hd : st.graph.deeds st.graph.slots.size c with
    | ok r =>
      rw [Run.exec_call_ok hd]
      exact hcall c st r hc hd
    | error e =>
      rw [Run.exec_call_error hd]
      exact hrefl st
  | registries f hc => exact hregistries hc st _
  | named hc => exact hnamed hc st
  | @bind _ _ m k _ _ ihm ihk =>
    have hfirst := ihm st
    rcases hr : m.exec st with ⟨e | a, st'⟩ <;> rw [hr] at hfirst
    · rw [Run.exec_bind_error hr]
      exact hfirst
    · rw [Run.exec_bind_ok hr]
      exact htrans hfirst (ihk a st')

theorem slots_size_le {m : Run α} (hm : Step may m) (st : RunState) :
    st.graph.slots.size ≤ (m.exec st).2.graph.slots.size :=
  hm.keeps (R := fun a b => a.graph.slots.size ≤ b.graph.slots.size) (fun _ => Nat.le_refl _)
    Nat.le_trans (fun _ st r _ _ => st.graph.slots_size_le_enactAll r.2) (fun _ _ _ => Nat.le_refl _)
    (fun _ _ => Nat.le_refl _) st

/-- A step fails with a plain error, with one that it may fail with, or because it calls about a
subject that is not there. -/
theorem failure {m : Run α} (hm : Step may m) (st : RunState) {e : MappingError}
    (he : (m.exec st).1 = .error e) : e.isPlain ∨ (may (.failed e) ∧ e.isFatal = false) ∨
      ∃ c handle, may (.graph c) ∧ handle ∈ c.handles ∧ st.graph.slots.size ≤ handle ∧
        e = .processing (.unknownHandle handle) := by
  induction hm generalizing st with
  | given r hr hfailed =>
    rw [Run.exec_ofExcept] at he
    cases hp : e.isPlain with
    | true => exact .inl rfl
    | false => exact .inr (.inl ⟨hfailed e he hp, hr e he⟩)
  | read k _ ih => exact ih _ _ st he
  | call c hc =>
    -- A call fails only where its deeds do.
    cases hd : st.graph.deeds st.graph.slots.size c with
    | ok r => cases Run.exec_call_ok hd ▸ he
    | error e' =>
      rw [Run.exec_call_error hd] at he
      cases he
      obtain hplain | ⟨handle, hmem, hle, rfl⟩ := st.graph.deeds_known st.graph.slots.size c e hd
      · exact .inl hplain
      · exact .inr (.inr ⟨c, handle, hc, hmem, hle, rfl⟩)
  | registries f _ => cases he
  | named _ => cases he
  | @bind _ _ m k hm _ ihm ihk =>
    have hle := hm.slots_size_le st
    rcases hr : m.exec st with ⟨e' | a, st'⟩ <;> rw [hr] at hle
    · rw [Run.exec_bind_error hr] at he
      exact ihm st (by rw [hr, ← Except.error.inj he])
    · rw [Run.exec_bind_ok hr] at he
      obtain hplain | hfailed | ⟨c, handle, hc, hmem, hout, rfl⟩ := ihk a st' he
      · exact .inl hplain
      · exact .inr (.inl hfailed)
      · exact .inr (.inr ⟨c, handle, hc, hmem, Nat.le_trans hle hout, rfl⟩)

/-- A step that fails does not end the run. -/
theorem recoverable {m : Run α} (hm : Step may m) (st : RunState) : Recoverable (m.exec st).1 := by
  intro e he
  obtain hplain | ⟨-, hfatal⟩ | ⟨c, handle, -, -, -, rfl⟩ := hm.failure st he
  · exact MappingError.isFatal_of_isPlain hplain
  · exact hfatal
  · rfl

/-- A step records nothing. -/
theorem diagnostics {m : Run α} (hm : Step may m) (st : RunState) :
    (m.exec st).2.diagnostics = st.diagnostics :=
  hm.keeps (R := fun a b => b.diagnostics = a.diagnostics) (fun _ => rfl) (fun h h' => h'.trans h)
    (fun _ _ _ _ _ => rfl) (fun _ _ _ => rfl) (fun _ _ => rfl) st

end Step

/-! ## The steps of the interpreter -/

section
variable {may : Change → Prop}

theorem Run.expression_step (raw : String) : Step may (Run.expression raw) :=
  .read (fun r _ => Run.ofExcept (prepareMatch r raw)) fun r _ =>
    .plain (prepareMatch_plain r raw)

theorem Run.valuesOf_step (s : Setting) (data : XPath.NodeRef) (n : Node) (key : String)
    (t : Option Transform) (b : Bounds) : Step may (Run.valuesOf s data n key t b) :=
  .read (fun r _ => Run.ofExcept (values s.paths r data n key t b)) fun r _ =>
    .plain (values_plain s.paths r data n key t b)

theorem Run.subject_step (n : Node) : Step may (Run.subject n) :=
  .read (fun _ c => Run.ofExcept (c.handle n)) fun _ c => .plain (c.handle_plain n)

theorem require_step (n : Node) (key : String) : Step may (Run.ofExcept (n.require key)) :=
  .plain (n.require_plain key)

theorem nameOf_step (n : Node) (key : String) :
    Step may (Run.ofExcept (do QualifiedName.parse (← n.require key))) :=
  .plain (Plain.bind (n.require_plain key) fun _ => QualifiedName.parse_plain _)

variable (s : Setting) (n : Node) (data : XPath.NodeRef)

theorem selected_step : Step may (selected s n data) := by
  refine .bind (require_step n "match") fun raw => .bind (Run.expression_step raw) fun expr => ?_
  exact .plain (s.paths.select_plain expr data)

theorem conditionHolds_step : Step may (conditionHolds s n data) := by
  refine .bind (require_step n "match") fun raw => .bind (Run.expression_step raw) fun expr => ?_
  exact .bind (.plain (s.paths.evaluate_plain expr data)) fun v => .pure _

theorem switchCandidates_step : Step may (switchCandidates s n data) := by
  unfold switchCandidates
  split
  · exact .pure _
  · refine .bind (Run.expression_step _) fun expr => ?_
    exact .bind (.plain (s.paths.select_plain expr data)) fun nodes => .pure _

theorem branchHits_step (candidates : List String) : Step may (branchHits s candidates n data) := by
  unfold branchHits
  split
  · refine .bind (Run.expression_step _) fun expr => ?_
    exact .bind (.plain (s.paths.select_plain expr data)) fun nodes => .pure _
  · exact .pure _
  · exact .plain (Plain.error.2 rfl)

theorem identifierValue_step : Step may (identifierValue s n data) := by
  refine .bind (.plain (modifier_plain s n)) fun t => ?_
  refine .bind (Run.valuesOf_step s data n "value" t .one) fun vs => ?_
  dsimp only
  split
  · exact .bind (.plain (Plain.error.2 rfl)) fun _ => .pure _
  · exact .pure _

theorem newSubject_step : Step OpenOnly (newSubject s n data) := by
  unfold newSubject
  split
  · refine .bind (identifierValue_step s _ data) fun id => ?_
    exact .bind (.create (.addNamed id) trivial rfl) fun handle => .pure _
  · exact .bind (.create .addResource trivial rfl) fun handle => .pure _

theorem assignGraph_step : Step SealOnly (assignGraph s n data) := by
  refine .bind (Run.valuesOf_step s data n "namedgraph" none .one) fun names => ?_
  split
  · exact .build (.sealAs _) trivial rfl
  · exact .pure _

theorem addObjects_step {handle : Nat} {predicate : QualifiedName}
    (hmay : ∀ object, may (.graph (.addObject handle predicate object))) (values : List String) :
    Step may (addObjects s handle predicate values) := by
  induction values with
  | nil => exact .pure _
  | cons value rest ih =>
    unfold addObjects
    dsimp only
    split
    · exact .bind (.build (.addObject handle predicate _) (hmay _) rfl) fun _ => ih
    · exact ih

/-- There is a literal for each value of which something is left. -/
theorem addLiterals_step {handle : Nat} {predicate : QualifiedName} {kind : LiteralKind}
    {values : List String}
    (hmay : ∀ value ∈ values, Sanitize.literal (Text.trim value) ≠ "" →
      may (.graph (.addLiteral handle predicate (Sanitize.literal (Text.trim value)) kind))) :
    Step may (addLiterals handle predicate kind values) := by
  induction values with
  | nil => exact .pure _
  | cons value rest ih =>
    obtain ⟨hvalue, hrest⟩ := List.forall_mem_cons.1 hmay
    unfold addLiterals
    dsimp only
    split
    · next hne =>
      have hliteral := hvalue (by simpa using hne)
      exact .bind (.build (.addLiteral handle predicate _ kind) hliteral rfl) fun _ => ih hrest
    · exact ih hrest

/-- A node that makes statements does nothing else. -/
theorem runTriple_step : Step StatementOnly (runTriple s n data) := by
  refine .bind (nameOf_step n "predicate") fun predicate => ?_
  refine .bind (Run.subject_step n) fun handle => ?_
  refine .bind (.plain (modifier_plain s n)) fun t => ?_
  split
  · refine .bind (Run.valuesOf_step s data n "object" t .any) fun vs => ?_
    exact addObjects_step s (fun _ => trivial) vs
  · refine .bind (require_step n "value") fun _ => ?_
    refine .bind (Run.valuesOf_step s data n "value" t .any) fun vs => ?_
    exact addLiterals_step fun _ _ _ => trivial

theorem addClasses_step {handle : Nat}
    (hmay : ∀ object, may (.graph (.addObject handle ⟨"rdf", "type"⟩ object)))
    (values : List String) : Step may (addClasses s handle values) := by
  induction values with
  | nil => exact .pure _
  | cons value rest ih => exact .bind (.build (.addObject handle _ _) (hmay _) rfl) fun _ => ih

/-- A node that gives classes does nothing else. -/
theorem runType_step : Step StatementOnly (runType s n data) := by
  refine .bind (Run.subject_step n) fun handle => ?_
  refine .bind (Run.valuesOf_step s data n "value" none .some) fun vs => ?_
  exact addClasses_step s (fun _ => trivial) vs

theorem newBlank_step : Step BlankOnly (newBlank n) := by
  refine .bind (nameOf_step n "predicate") fun predicate => ?_
  refine .bind (nameOf_step n "type") fun type => .bind (Run.subject_step n) fun handle => ?_
  refine .bind (.create (.addBlank type) trivial rfl) fun blank => ?_
  exact .bind (.build (.link handle predicate blank) trivial rfl) fun _ => .pure _

theorem runIdentifier_step : Step NameOnly (runIdentifier s n data) := by
  refine .read (fun _ c => if !c.hasIdentifier then _ else _) fun _ c => ?_
  split
  · refine .bind (Run.subject_step n) fun handle => .bind (identifierValue_step s n data) fun id => ?_
    exact .bind (.build (.identify handle id) trivial rfl) fun _ => .named trivial
  · exact .pure _

theorem runCounter_step : Step RegistriesOnly (runCounter n) := by
  refine .bind (require_step n "name") fun name => ?_
  refine .bind (.plain (flag_plain n "iterate" false)) fun iterate => ?_
  split
  · refine .read (fun r _ => Run.ofExcept (r.iterate name) >>= fun stepped =>
      modify fun st => { st with registries := stepped.2 }) fun r _ => ?_
    exact .bind (.plain (r.iterate_plain name)) fun stepped =>
      .registries (fun _ => stepped.2) trivial
  · refine .bind (.plain (initialValue_plain n)) fun value => ?_
    exact .registries (fun r => r.define name value _) trivial

theorem runUniqueIdentifier_step : Step RegistriesOnly (runUniqueIdentifier n) := by
  refine .bind (require_step n "name") fun name => ?_
  refine .bind (.plain (flag_plain n "generate" true)) fun generate => ?_
  split
  · exact .registries (fun r => (r.generate name).2) trivial
  · exact .pure _

end

end Triplify.Mapping
