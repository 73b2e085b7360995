import Triplify.Proofs.Walk.Exit
/-!
# Failures are reported once

An error comes up in what one node does on its own. On its way to where it is recorded it passes
through no other node: the node in which it comes up is the node that fails. `Balanced` is the
invariant: each error that has come up has been a failure of that node, but for the one with which
the run under way ends.

`runConfig_reports`: the errors of a run that ends well are its failures, and its warnings come from
the `<error>` nodes that only warn.
-/

namespace Triplify.Mapping

/-- The error with which a node ends, as a failure that is still to come. -/
def pending {α : Type} (l : Located) : Except MappingError α → List (Located × MappingError)
  | .ok _ => []
  | .error e => [(l, e)]

/-- Each error that has come up has been a failure, and none of them ended the run. The last error
may still be pending. -/
structure Balanced {α : Type} (caller : Located) (o : Watched α) : Prop where
  raised : o.events.filterMap Event.raised? =
    o.events.filterMap Event.failure? ++ pending caller o.result
  recovered : o.events.filterMap Event.recovered? = o.events.filterMap Event.failure?

namespace Balanced

variable {α β : Type} {caller : Located}

theorem own (l : Located) (m : Run α) (st : RunState) : Balanced l (Watch.own l m st) where
  raised := by
    have hstated : ∀ made : List GraphStatement,
        (made.map (Event.stated l)).filterMap Event.raised? = [] := by
      intro made
      simp [Event.raised?]
    have hfailure : (Watch.own l m st).events.filterMap Event.failure? = [] :=
      Watch.filterMap_own_eq_nil (fun _ => rfl) (fun _ => rfl) m st
    rw [hfailure, Watch.own, List.filterMap_append, hstated]
    cases (m.exec st).1 <;> rfl
  recovered := by
    rw [Watch.filterMap_own_eq_nil (fun _ => rfl) fun _ => rfl,
      Watch.filterMap_own_eq_nil (fun _ => rfl) fun _ => rfl]

theorem bind {w : Watch α} {k : α → Watch β} {st : RunState}
    (h : Recoverable (w st).result → Balanced caller (w st))
    (hk : ∀ a st, Recoverable (k a st).result → Balanced caller (k a st))
    (hrec : Recoverable ((w >>= k) st).result) : Balanced caller ((w >>= k) st) := by
  cases hr : (w st).result with
  | error e =>
    rw [Watch.bind_error hr] at hrec ⊢
    have hw := h (hr ▸ Recoverable.error.2 (Recoverable.error.1 hrec))
    exact ⟨by rw [hw.raised, hr]; rfl, hw.recovered⟩
  | ok a =>
    rw [Watch.bind_ok hr] at hrec ⊢
    have hw := h (hr ▸ Recoverable.ok a)
    have ha := hk a (w st).state hrec
    constructor
    · rw [List.filterMap_append, List.filterMap_append, hw.raised, ha.raised, hr]
      simp [pending]
    · rw [List.filterMap_append, List.filterMap_append, hw.recovered, ha.recovered]

/-- A failure that is recorded for a node is no longer pending. -/
theorem guarded {l : Located} {mark : Except MappingError Unit → Event} {w : Watch α}
    {st : RunState} (hraised : ∀ r, (mark r).raised? = none)
    (hok : (mark (.ok ())).failure? = none) (herror : ∀ e, (mark (.error e)).failure? = some (l, e))
    (h : Recoverable (w st).result → Balanced l (w st))
    (hrec : Recoverable (Watch.guarded l mark w st).result) :
    Balanced caller (Watch.guarded l mark w st) := by
  cases hr : (w st).result with
  | ok a =>
    have hw := h (hr ▸ Recoverable.ok a)
    rw [Watch.guarded_ok l mark hr]
    constructor
    · simp [hraised, hok, hw.raised, hr, pending]
    · simp [Event.recovered?, hok, hw.recovered]
  | error e =>
    cases he : e.isFatal with
    | true =>
      -- The run is over, and the balance is about runs that go on.
      rw [Watch.guarded_fatal l mark hr he] at hrec
      exact absurd (Recoverable.error.1 hrec) (by simp [he])
    | false =>
      have hw := h (hr ▸ Recoverable.error.2 he)
      rw [Watch.guarded_error l mark hr he]
      constructor
      · simp [hraised, herror, hw.raised, hr, pending]
      · simp [Event.recovered?_eq (herror e) he, herror, hw.recovered]

theorem started {l : Located} {o : Watched α} (h : Balanced caller o) :
    Balanced caller { o with events := .started l :: o.events } :=
  ⟨h.raised, h.recovered⟩

theorem child {l : Located} {w : Watch α} {st : RunState}
    (h : Recoverable (w st).result → Balanced l (w st))
    (hrec : Recoverable (Watch.child l w st).result) : Balanced caller (Watch.child l w st) :=
  started (guarded (fun _ => rfl) rfl (fun _ => rfl) h hrec)

theorem relation (s : Setting) : Relation (.self s) fun l _ w _ =>
    ∀ st, Recoverable (w st).result → Balanced l (w st) where
  pure _ _ _ _ _ := ⟨rfl, rfl⟩
  bind _ _ _ _ _ _ _ h hk _ := bind (h _) hk
  own _ _ st _ := own _ _ st
  within _ _ _ _ h _ hrec := ⟨(h _ hrec).raised, (h _ hrec).recovered⟩
  child _ _ _ _ _ _ _ h st := child (h st)
  report _ _ _ _ st := child fun _ => own _ _ st
  naming _ _ st := guarded (fun _ => rfl) rfl (fun _ => rfl) fun _ => own _ _ st
  skip _ _ _ _ _ h := nomatch h

end Balanced

/-- In a run that ends well, every failure is recorded once, in order, and for the node in which its
error came up: no other node fails for it. There is a warning for each `<error>` node that has a
message and is not to end the run, in order. -/
theorem runConfig_reports (s : Setting) (g : Graph) (taken : Nat)
    (h : (runConfig s g taken).1 = .ok ()) :
    (runConfig s g taken).2.diagnostics.errors =
        ((trace s g taken).filterMap Event.failure?).map reportOf ∧
      (trace s g taken).filterMap Event.raised? = (trace s g taken).filterMap Event.failure? ∧
      (runConfig s g taken).2.diagnostics.warnings =
        (trace s g taken).filterMap Event.warning? := by
  have hresult : (walkConfig s g taken).result = .ok () := (walkConfig_erases s g taken).1.trans h
  have hbalanced : Balanced s.root (walkConfig s g taken) :=
    (Balanced.relation s).config _ (hresult ▸ Recoverable.ok ())
  have haccounts := runConfig_accounts s g taken
  refine ⟨?_, ?_, ?_⟩
  · rw [haccounts.errors]
    exact congrArg (List.map reportOf) hbalanced.recovered
  · have hraised := hbalanced.raised
    rw [hresult, pending, List.append_nil] at hraised
    exact hraised
  · exact haccounts.warnings

/-- A configuration with a stray `else`, a class without a subject and a warning. -/
def strayElse : Setting where
  config :=
    { root := .mk .mapping "config" [] [
        .mk .otherwise "else" [] [] "<else/>",
        .mk .type "type" [("value", "owl:Thing")] [] "<type value=\"owl:Thing\"/>",
        .mk .error "error" [("message", "old")] [] "<error message=\"old\"/>"] "<config/>"
      namespaces := .standard
      warnings := [] }
  transforms := {}
  paths := ⟨⟨#[]⟩, []⟩

theorem strayElse_reports :
    let run := runConfig strayElse ⟨⟨.standard, none⟩, .turtle, #[], #[], #[]⟩ 0
    let events := trace strayElse ⟨⟨.standard, none⟩, .turtle, #[], #[], #[]⟩ 0
    run.1 = .ok () ∧
      (run.2.diagnostics.errors = (events.filterMap Event.failure?).map reportOf ∧
        events.filterMap Event.raised? = events.filterMap Event.failure? ∧
        run.2.diagnostics.warnings = events.filterMap Event.warning?) ∧
      run.2.diagnostics.errors.map (·.source) =
        [some "<else/>", some "<type value=\"owl:Thing\"/>"] ∧
      run.2.diagnostics.warnings =
        [⟨"User specified error: old", some "<error message=\"old\"/>"⟩] :=
  ⟨rfl, runConfig_reports strayElse ⟨⟨.standard, none⟩, .turtle, #[], #[], #[]⟩ 0 rfl, rfl, rfl⟩

end Triplify.Mapping
