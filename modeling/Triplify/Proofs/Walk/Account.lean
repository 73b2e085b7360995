import Triplify.Proofs.Walk.Relation
/-!
# What a trace accounts for

A run adds to the graph the statements that its trace tells of, and to the diagnostics a warning for
each `<error>` node that only warns and an error for each failure that does not end the run.

`runConfig_accounts`: they are all that a run adds, in the order of the trace.
-/

namespace Triplify.Mapping

/-! ## Error nodes -/

theorem Node.require_of_some {n : Node} {key value : String} (h : n.get? key = some value) :
    n.require key = .ok value := by
  rw [Node.require, h]

theorem Node.require_of_none {n : Node} {key : String} (h : n.get? key = none) :
    n.require key = .error (.missingAttribute key n.source) := by
  rw [Node.require, h]

/-- How an `<error>` node ends. -/
def Node.verdict (n : Node) : Except MappingError Unit := do
  let message ← n.require "message"
  if ← flag n "exit" false then throw (.userDefined message)

/-- The warning of an `<error>` node that has a message and is not to end the run. -/
def Node.warning? (n : Node) : Option Diagnostic :=
  match n.tag, n.get? "message", flag n "exit" false with
  | .error, some message, .ok false => some ⟨s!"User specified error: {message}", some n.source⟩
  | _, _, _ => none

theorem Node.warning?_eq_none {n : Node} (h : n.tag ≠ .error) : n.warning? = none := by
  unfold Node.warning?
  split
  · next htag _ _ => exact (h htag).elim
  · rfl

/-- An `<error>` node ends as its attributes say, and adds at most a warning. -/
theorem exec_runError {n : Node} (h : n.tag = .error) (st : RunState) :
    (runError n).exec st = (n.verdict,
      { st with diagnostics :=
        { st.diagnostics with warnings := st.diagnostics.warnings ++ n.warning?.toList } }) := by
  rw [runError, Node.verdict, Node.warning?, h]
  cases hmessage : n.get? "message" with
  | none =>
    rw [Node.require_of_none hmessage]
    simp only [Option.toList_none, List.append_nil]
    rfl
  | some message =>
    rw [Node.require_of_some hmessage]
    rcases flag n "exit" false with e | _ | _
    · simp only [Option.toList_none, List.append_nil]
      rfl
    · rfl
    · simp only [Option.toList_none, List.append_nil]
      rfl

/-! ## What events stand for -/

namespace Event

/-- The statement that is made. -/
def statement? : Event → Option GraphStatement
  | stated _ s => some s
  | _ => none

/-- The node in which an error comes up, and the error. -/
def raised? : Event → Option (Located × MappingError)
  | raised l e => some (l, e)
  | _ => none

/-- The node that failed, or whose graph could not be named, and the error. -/
def failure? : Event → Option (Located × MappingError)
  | ended l (.error e) => some (l, e)
  | named l (.error e) => some (l, e)
  | _ => none

/-- The node that failed and the error, unless that ends the run. -/
def recovered? (event : Event) : Option (Located × MappingError) :=
  event.failure?.filter fun f => !f.2.isFatal

/-- The warning of a node that is carried out. -/
def warning? : Event → Option Diagnostic
  | started l => l.node.warning?
  | _ => none

theorem recovered?_eq {event : Event} {l : Located} {e : MappingError}
    (h : event.failure? = some (l, e)) (he : e.isFatal = false) :
    event.recovered? = some (l, e) := by
  simp [recovered?, h, he]

end Event

/-- What is recorded for a failure. -/
def reportOf (failure : Located × MappingError) : Diagnostic := failure.1.node.report failure.2

/-- The second state has what the first has, and what the events stand for. -/
structure Accounts (st : RunState) (events : List Event) (st' : RunState) : Prop where
  statements : st'.graph.statements = st.graph.statements ++ events.filterMap Event.statement?
  errors : st'.diagnostics.errors =
    st.diagnostics.errors ++ (events.filterMap Event.recovered?).map reportOf
  warnings : st'.diagnostics.warnings = st.diagnostics.warnings ++ events.filterMap Event.warning?

namespace Accounts

theorem nil (st : RunState) : Accounts st [] st := ⟨by simp, by simp, by simp⟩

theorem append {st st' st'' : RunState} {es es' : List Event} (h : Accounts st es st')
    (h' : Accounts st' es' st'') : Accounts st (es ++ es') st'' where
  statements := by rw [h'.statements, h.statements, List.filterMap_append, List.append_assoc]
  errors := by
    rw [h'.errors, h.errors, List.filterMap_append, List.map_append, List.append_assoc]
  warnings := by rw [h'.warnings, h.warnings, List.filterMap_append, List.append_assoc]

end Accounts

/-! ## What a run adds -/

/-- A step that makes statements adds them after those that there are. -/
theorem Step.statements {may : Change → Prop} {α : Type} {m : Run α} (hm : Step may m)
    (st : RunState) : st.graph.statements <+: (m.exec st).2.graph.statements := by
  refine hm.keeps (R := fun a b => a.graph.statements <+: b.graph.statements)
    (fun _ => List.prefix_rfl) (fun h h' => h.trans h') ?_ (fun _ _ _ => List.prefix_rfl)
    (fun _ _ => List.prefix_rfl) st
  intro c st r _ _
  exact ⟨_, (st.graph.enactAll_statements r.2).symm⟩

theorem Accounts.own {may : Change → Prop} {α : Type} {m : Run α} (hm : Step may m) (l : Located)
    (st : RunState) : Accounts st (Watch.own l m st).events (Watch.own l m st).state where
  statements := by
    obtain ⟨made, hmade⟩ := hm.statements st
    have hstated : made.filterMap (fun s => (Event.stated l s).statement?) = made :=
      List.filterMap_some
    rw [Watch.filterMap_own (fun _ => rfl), ← hmade, List.drop_left, hstated]
    exact hmade.symm
  errors := by
    rw [Watch.filterMap_own_eq_nil (fun _ => rfl) fun _ => rfl, List.map_nil, List.append_nil]
    exact congrArg Diagnostics.errors (hm.diagnostics st)
  warnings := by
    rw [Watch.filterMap_own_eq_nil (fun _ => rfl) fun _ => rfl, List.append_nil]
    exact congrArg Diagnostics.warnings (hm.diagnostics st)

/-- The record of a failure is what its event stands for. -/
theorem Accounts.guarded {l : Located} {mark : Except MappingError Unit → Event} {α : Type}
    {w : Watch α} {start st : RunState} (es : List Event)
    (hok : (mark (.ok ())).failure? = none) (herror : ∀ e, (mark (.error e)).failure? = some (l, e))
    (hsilent : ∀ r, (mark r).statement? = none ∧ (mark r).warning? = none)
    (h : Accounts start (es ++ (w st).events) (w st).state) :
    Accounts start (es ++ (Watch.guarded l mark w st).events) (Watch.guarded l mark w st).state := by
  cases hr : (w st).result with
  | ok a =>
    rw [Watch.guarded_ok l mark hr, ← List.append_assoc]
    refine h.append ⟨?_, ?_, ?_⟩ <;>
      simp [Event.recovered?, hok, (hsilent (.ok ())).1, (hsilent (.ok ())).2]
  | error e =>
    cases he : e.isFatal with
    | true =>
      rw [Watch.guarded_fatal l mark hr he, ← List.append_assoc]
      refine h.append ⟨?_, ?_, ?_⟩ <;>
        simp [Event.recovered?, herror, he, (hsilent (.error e)).1, (hsilent (.error e)).2]
    | false =>
      have hrecovered := Event.recovered?_eq (herror e) he
      rw [Watch.guarded_error l mark hr he, ← List.append_assoc]
      refine h.append ⟨?_, ?_, ?_⟩
      · simp [(hsilent (.error e)).1]
      · rw [List.filterMap_cons_some hrecovered]
        rfl
      · simp [(hsilent (.error e)).2, Node.reportIn]

/-- The warning of an `<error>` node is what its start stands for. -/
theorem Accounts.errorNode {l : Located} (h : l.node.tag = .error) (st : RunState) :
    Accounts st (.started l :: (Watch.own l (runError l.node) st).events)
      (Watch.own l (runError l.node) st).state := by
  have hstate : (Watch.own l (runError l.node) st).state = ((runError l.node).exec st).2 := rfl
  rw [hstate, exec_runError h]
  refine ⟨?_, ?_, ?_⟩
  · rw [List.filterMap_cons_none rfl, Watch.filterMap_own (fun _ => rfl), exec_runError h]
    simp
  · rw [List.filterMap_cons_none rfl, Watch.filterMap_own_eq_nil (fun _ => rfl) fun _ => rfl]
    simp
  -- The warning is recorded while the node is carried out, and stands for its start.
  · have hstart : (Event.started l).warning? = l.node.warning? := rfl
    rw [List.filterMap_cons, Watch.filterMap_own_eq_nil (fun _ => rfl) fun _ => rfl, hstart]
    cases l.node.warning? <;> rfl

theorem Accounts.relation (s : Setting) :
    Relation (.self s) fun _ _ w _ => ∀ st, Accounts st (w st).events (w st).state where
  pure _ _ _ st := .nil st
  bind _ _ _ w _ k _ h hk st := by
    cases hr : (w st).result with
    | ok a =>
      rw [Watch.bind_ok hr]
      exact (h st).append (hk a (w st).state)
    | error e =>
      rw [Watch.bind_error hr]
      exact h st
  own _ hm st := .own hm _ st
  within _ inner _ _ h st :=
    have inside := h { st with context := inner }
    ⟨inside.statements, inside.errors, inside.warnings⟩
  child _ l _ w _ _ htag h st := by
    rw [Watch.child_apply]
    have hstart : Accounts st [.started l] st :=
      ⟨by simp [Event.statement?], by simp [Event.recovered?, Event.failure?],
        by simp [Event.warning?, Node.warning?_eq_none htag]⟩
    exact Accounts.guarded [.started l] rfl (fun _ => rfl) (fun _ => ⟨rfl, rfl⟩)
      (hstart.append (h st))
  report _ l _ htag st := by
    rw [Watch.child_apply]
    exact Accounts.guarded [.started l] rfl (fun _ => rfl) (fun _ => ⟨rfl, rfl⟩)
      (.errorNode htag st)
  naming _ hm st :=
    Accounts.guarded [] rfl (fun _ => rfl) (fun _ => ⟨rfl, rfl⟩) (.own hm _ st)
  skip _ _ _ _ _ h := nomatch h

/-- All that a run adds is what its trace stands for. -/
theorem runConfig_accounts (s : Setting) (g : Graph) (taken : Nat) :
    Accounts { graph := g, registries := { taken := taken } } (trace s g taken)
      (runConfig s g taken).2 :=
  (walkConfig_erases s g taken).2 ▸ (Accounts.relation s).config _

end Triplify.Mapping
