import Triplify.Proofs.Walk.Account
/-!
# How a run ends

`runConfig_error_iff`: a run fails exactly if it carries out an `<error>` node that is to end it. It
then fails with the message of the first of them, and nothing happens after it but that the nodes
around it end. All other failures leave a run that ends well.
-/

namespace Triplify.Mapping

/-- An `<error>` node that is to end the run, with its message. -/
def Node.Exits (n : Node) (message : String) : Prop :=
  n.tag = .error ∧ n.get? "message" = some message ∧
    ∃ v, n.get? "exit" = some v ∧ Attribute.boolean n.name "exit" v = .ok true

theorem flag_eq_true {n : Node} {key : String} : flag n key false = .ok true ↔
    ∃ v, n.get? key = some v ∧ Attribute.boolean n.name key v = .ok true := by
  rw [flag]
  cases n.get? key with
  | none => simp
  | some v => simp

/-- An `<error>` node fails like others or not at all, unless it is to end the run. -/
theorem Node.verdict_cases {n : Node} (h : n.tag = .error) :
    ((∀ message, ¬ n.Exits message) ∧ Recoverable n.verdict) ∨
      ∃ message, n.Exits message ∧ n.verdict = .error (.userDefined message) := by
  simp only [Node.Exits, ← flag_eq_true]
  rw [Node.verdict]
  cases hmessage : n.get? "message" with
  | none =>
    rw [Node.require_of_none hmessage]
    refine .inl ⟨?_, Recoverable.error.2 rfl⟩
    rintro message ⟨-, hnone, -⟩
    cases hnone
  | some message =>
    rw [Node.require_of_some hmessage]
    have hflag := (flag_plain n "exit" false).recoverable
    rcases hexit : flag n "exit" false with e | _ | _
    · refine .inl ⟨?_, Recoverable.error.2 (hflag e hexit)⟩
      rintro message ⟨-, -, htrue⟩
      cases htrue
    · refine .inl ⟨?_, Recoverable.ok ()⟩
      rintro message ⟨-, -, htrue⟩
      cases htrue
    · exact .inr ⟨message, ⟨h, rfl, rfl⟩, rfl⟩

/-! ## Calm and ended runs -/

/-- No node is carried out that is to end the run. -/
def Calm (events : List Event) : Prop :=
  ∀ l, .started l ∈ events → ∀ message, ¬ l.node.Exits message

/-- The first node that is to end the run is carried out, and its error ends all the nodes around
it. -/
def Aborts (events : List Event) (e : MappingError) : Prop :=
  ∃ before l message around,
    events = before ++ .started l :: .raised l e :: (l :: around).map (.ended · (.error e)) ∧
      l.node.Exits message ∧ e = .userDefined message ∧ Calm before

theorem Calm.nil : Calm [] := by
  intro l hl
  cases hl

theorem Calm.append {es es' : List Event} (h : Calm es) (h' : Calm es') : Calm (es ++ es') := by
  intro l hl
  rcases List.mem_append.1 hl with hl | hl
  · exact h l hl
  · exact h' l hl

theorem calm_of_not_started {es : List Event} (h : ∀ l, Event.started l ∉ es) : Calm es :=
  fun l hl => (h l hl).elim

namespace Aborts

variable {es es' : List Event} {e : MappingError}

theorem isFatal (h : Aborts es e) : e.isFatal := by
  obtain ⟨_, _, message, _, _, _, rfl, _⟩ := h
  rfl

theorem after (h : Calm es') (ha : Aborts es e) : Aborts (es' ++ es) e := by
  obtain ⟨before, l, message, around, rfl, hexits, he, hcalm⟩ := ha
  exact ⟨es' ++ before, l, message, around, (List.append_assoc ..).symm, hexits, he, h.append hcalm⟩

theorem ended (l : Located) (ha : Aborts es e) : Aborts (es ++ [.ended l (.error e)]) e := by
  obtain ⟨before, l', message, around, rfl, hexits, he, hcalm⟩ := ha
  exact ⟨before, l', message, around ++ [l], by simp, hexits, he, hcalm⟩

theorem not_calm (ha : Aborts es e) : ¬ Calm es := by
  obtain ⟨before, l, message, around, rfl, hexits, _, _⟩ := ha
  exact fun hcalm => hcalm l (by simp) message hexits

/-- The last event tells the error. -/
theorem last (ha : Aborts es e) : ∃ l, es.getLast? = some (.ended l (.error e)) := by
  obtain ⟨before, l, message, around, rfl, _, _, _⟩ := ha
  simp only [List.getLast?_append, List.getLast?_cons, List.map_cons, Option.getD_some,
    Option.some_or, Option.some.injEq]
  rw [List.getLast?_map]
  cases around.getLast? with
  | none => exact ⟨l, rfl⟩
  | some outer => exact ⟨outer, rfl⟩

theorem unique {e' : MappingError} (ha : Aborts es e) (ha' : Aborts es e') : e = e' := by
  obtain ⟨l, hl⟩ := ha.last
  obtain ⟨l', hl'⟩ := ha'.last
  rw [hl] at hl'
  cases hl'
  rfl

end Aborts

/-- A run is calm and can go on after its failure, or it is ended. -/
def Settled {α : Type} (o : Watched α) : Prop :=
  (Calm o.events ∧ Recoverable o.result) ∨ ∃ e, o.result = .error e ∧ Aborts o.events e

theorem own_calm (l : Located) {α : Type} (m : Run α) (st : RunState) :
    Calm (Watch.own l m st).events := by
  refine calm_of_not_started fun c hc => ?_
  rcases Watch.mem_own hc with ⟨s, hs⟩ | ⟨e, he⟩
  · cases hs
  · cases he

namespace Settled

variable {α β : Type}

theorem own (l : Located) {m : Run α} (hm : Step AnyChange m) (st : RunState) :
    Settled (Watch.own l m st) :=
  .inl ⟨own_calm l m st, hm.recoverable st⟩

theorem bind {w : Watch α} {k : α → Watch β} {st : RunState} (h : Settled (w st))
    (hk : ∀ a st, Settled (k a st)) : Settled ((w >>= k) st) := by
  cases hr : (w st).result with
  | error e =>
    rw [Watch.bind_error hr]
    rcases h with ⟨hcalm, hrec⟩ | ⟨e', he', haborts⟩
    · exact .inl ⟨hcalm, Recoverable.error.2 (hrec e hr)⟩
    · rw [hr] at he'
      cases he'
      exact .inr ⟨e, rfl, haborts⟩
  | ok a =>
    rw [Watch.bind_ok hr]
    rcases h with ⟨hcalm, -⟩ | ⟨e', he', -⟩
    · rcases hk a (w st).state with ⟨hcalm', hrec⟩ | ⟨e, he, haborts⟩
      · exact .inl ⟨hcalm.append hcalm', hrec⟩
      · exact .inr ⟨e, he, haborts.after hcalm⟩
    · rw [hr] at he'
      cases he'

/-- Whether a failure is recorded or goes on, a run that was settled stays so. -/
theorem guarded {l : Located} {mark : Except MappingError Unit → Event} {w : Watch α}
    {st : RunState} (hmark : ∀ r c, mark r ≠ .started c)
    (hended : ∀ e, Aborts (w st).events e → Aborts ((w st).events ++ [mark (.error e)]) e)
    (h : Settled (w st)) : Settled (Watch.guarded l mark w st) := by
  have hcalm : ∀ r, Calm [mark r] := fun r =>
    calm_of_not_started fun c hc => hmark r c (List.mem_singleton.1 hc).symm
  cases hr : (w st).result with
  | ok a =>
    rw [Watch.guarded_ok l mark hr]
    rcases h with ⟨hc, -⟩ | ⟨e', he', -⟩
    · exact .inl ⟨hc.append (hcalm _), Recoverable.ok _⟩
    · rw [hr] at he'
      cases he'
  | error e =>
    rcases h with ⟨hc, hrec⟩ | ⟨e', he', haborts⟩
    · rw [Watch.guarded_error l mark hr (hrec e hr)]
      exact .inl ⟨hc.append (hcalm _), Recoverable.ok _⟩
    · rw [hr] at he'
      cases he'
      rw [Watch.guarded_fatal l mark hr haborts.isFatal]
      exact .inr ⟨e, rfl, hended e haborts⟩

theorem started {l : Located} {o : Watched α} (hl : ∀ message, ¬ l.node.Exits message)
    (h : Settled o) : Settled { o with events := .started l :: o.events } := by
  have hcalm : Calm [.started l] := by
    intro c hc
    cases List.mem_singleton.1 hc
    exact hl
  rcases h with ⟨hc, hrec⟩ | ⟨e, he, haborts⟩
  · exact .inl ⟨hcalm.append hc, hrec⟩
  · exact .inr ⟨e, he, haborts.after hcalm⟩

theorem child {l : Located} {w : Watch α} {st : RunState} (hl : ∀ message, ¬ l.node.Exits message)
    (h : Settled (w st)) : Settled (Watch.child l w st) :=
  started hl (guarded (fun _ _ => nofun) (fun _ ha => ha.ended l) h)

theorem errorNode {l : Located} (h : l.node.tag = .error) (st : RunState) :
    Settled (Watch.child l (.own l (runError l.node)) st) := by
  rcases l.node.verdict_cases h with ⟨hl, hrec⟩ | ⟨message, hl, hverdict⟩
  · refine child hl (.inl ⟨own_calm l _ st, ?_⟩)
    rw [Watch.own, exec_runError h]
    exact hrec
  · have hresult : (Watch.own l (runError l.node) st).result = .error (.userDefined message) := by
      rw [Watch.own, exec_runError h, hverdict]
    have hevents : (Watch.own l (runError l.node) st).events =
        [.raised l (.userDefined message)] := by
      rw [Watch.own, exec_runError h, hverdict]
      simp only [List.drop_length, List.map_nil]
      rfl
    rw [Watch.child_apply, Watch.guarded_fatal l (.ended l) hresult rfl, hevents]
    exact .inr ⟨.userDefined message, rfl, [], l, message, [], rfl, hl, rfl, .nil⟩

theorem relation (s : Setting) : Relation (.self s) fun _ _ w _ => ∀ st, Settled (w st) where
  pure _ _ _ _ := .inl ⟨.nil, Recoverable.ok _⟩
  bind _ _ _ _ _ _ _ h hk _ := (h _).bind hk
  own _ hm st := own _ hm st
  within _ _ _ _ h _ := h _
  child _ _ _ _ _ _ htag h st := child (fun _ hl => htag hl.1) (h st)
  report _ _ _ htag st := errorNode htag st
  naming _ hm st :=
    guarded (fun _ _ => nofun) (fun _ ha => (ha.not_calm (own_calm _ _ st)).elim) (own _ hm st)
  skip _ _ _ _ _ h := nomatch h

end Settled

/-! ## The whole run -/

theorem Watch.guarded_fails {l : Located} {mark : Except MappingError Unit → Event} {α : Type}
    {w : Watch α} {st : RunState} {e : MappingError}
    (h : (Watch.guarded l mark w st).result = .error e) : e.isFatal := by
  cases hr : (w st).result with
  | ok a =>
    rw [Watch.guarded_ok l mark hr] at h
    cases h
  | error e' =>
    cases he : e'.isFatal with
    | true =>
      rw [Watch.guarded_fatal l mark hr he] at h
      cases h
      exact he
    | false =>
      rw [Watch.guarded_error l mark hr he] at h
      cases h

/-- Nodes in order fail only with an error that ends the run. -/
theorem walkEach_error {s : Setting} {body : WalkBody} {data : XPath.NodeRef}
    {before : Option ConditionResult} {cs : List Located} {st : RunState} {e : MappingError}
    (h : (walkEach s body data before cs st).result = .error e) : e.isFatal := by
  have hbind : ∀ {α : Type} {l : Located} {w : Watch α} {k : Except MappingError α → Watch Unit}
      {st : RunState}, (∀ r st, (k r st).result = .error e → e.isFatal) →
      ((Watch.child l w >>= k) st).result = .error e → e.isFatal := by
    intro α l w k st hk h
    cases hr : (Watch.child l w st).result with
    | ok r =>
      rw [Watch.bind_ok hr] at h
      exact hk r _ h
    | error e' =>
      rw [Watch.bind_error hr] at h
      cases h
      have hguarded : (Watch.guarded l (.ended l) w st).result = .error e := hr
      exact Watch.guarded_fails hguarded
  induction cs generalizing before st with
  | nil => cases h
  | cons l rest ih =>
    rw [walkEach] at h
    split at h
    · exact hbind (fun _ _ h => ih h) h
    · exact hbind (fun _ _ h => ih h) h

/-- A run ends well and is calm, or its error ends it. -/
theorem runConfig_cases (s : Setting) (g : Graph) (taken : Nat) :
    ((runConfig s g taken).1 = .ok () ∧ Calm (trace s g taken)) ∨
      ∃ e, (runConfig s g taken).1 = .error e ∧ Aborts (trace s g taken) e := by
  have hsettled := (Settled.relation s).config { graph := g, registries := { taken := taken } }
  have hresult : (walkConfig s g taken).result = (runConfig s g taken).1 :=
    (walkConfig_erases s g taken).1
  rw [← hresult]
  rcases hsettled with ⟨hcalm, hrec⟩ | haborts
  -- No error but a fatal one gets past the children of the root, and a calm run has none.
  · refine .inl ⟨?_, hcalm⟩
    cases hr : (walkConfig s g taken).result with
    | ok a => rfl
    | error e =>
      have hfatal : e.isFatal := walkEach_error hr
      exact absurd hfatal (by simp [hrec e hr])
  · exact .inr haborts

/-- A run fails exactly if it carries out a node that is to end it. It fails with the message of the
first, and nothing happens after that but that the nodes around it end: no node is carried out and no
statement is made. -/
theorem runConfig_error_iff (s : Setting) (g : Graph) (taken : Nat) :
    (∀ e, (runConfig s g taken).1 = .error e ↔ ∃ before l message around,
      trace s g taken =
          before ++ .started l :: .raised l e :: (l :: around).map (.ended · (.error e)) ∧
        l.node.Exits message ∧ e = .userDefined message ∧
        ∀ c, .started c ∈ before → ∀ message, ¬ c.node.Exits message) ∧
    ((runConfig s g taken).1 = .ok () ↔
      ∀ c, .started c ∈ trace s g taken → ∀ message, ¬ c.node.Exits message) ∧
    (runConfig s g taken).2.graph.statements =
      g.statements ++ (trace s g taken).filterMap Event.statement? := by
  have hcases := runConfig_cases s g taken
  refine ⟨fun e => ?_, ?_, (runConfig_accounts s g taken).statements⟩
  · rcases hcases with ⟨hok, hcalm⟩ | ⟨e', he', haborts⟩
    · rw [hok]
      exact ⟨nofun, fun ha => (Aborts.not_calm ha hcalm).elim⟩
    · rw [he']
      constructor
      · rintro ⟨⟩
        exact haborts
      -- The trace tells the error, so that there is only one.
      · intro ha
        rw [haborts.unique ha]
  · rcases hcases with ⟨hok, hcalm⟩ | ⟨e', he', haborts⟩
    · exact ⟨fun _ => hcalm, fun _ => hok⟩
    · rw [he']
      exact ⟨nofun, fun hcalm => (haborts.not_calm hcalm).elim⟩

end Triplify.Mapping
