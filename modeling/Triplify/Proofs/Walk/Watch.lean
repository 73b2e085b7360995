import Triplify.Proofs.Walk.Place
import Triplify.Proofs.Walk.Step
/-!
# Watching a run

A run that is watched gives, besides its result and its state, what happened in order: which nodes
were carried out and how that ended, which statements they made, and where an error came up. Every
event belongs to the node that was being carried out.
-/

namespace Triplify.Mapping

/-- Something that happens in a run. -/
inductive Event
  /-- A child node is about to be carried out. -/
  | started (l : Located)
  /-- A statement is made by a node. -/
  | stated (l : Located) (s : GraphStatement)
  /-- An error comes up in what a node does on its own. -/
  | raised (l : Located) (e : MappingError)
  /-- A child node has been carried out. -/
  | ended (l : Located) (result : Except MappingError Unit)
  /-- A node has tried to name the graph of a match. -/
  | named (l : Located) (result : Except MappingError Unit)

/-- What a run gives when it is watched. -/
structure Watched (α : Type) where
  result : Except MappingError α
  state : RunState
  events : List Event

/-- A run that is watched. -/
def Watch (α : Type) : Type := RunState → Watched α

namespace Watch

variable {α β : Type}

instance : Monad Watch where
  pure a := fun st => ⟨.ok a, st, []⟩
  bind w k := fun st =>
    match w st with
    | ⟨.ok a, st', events⟩ => { k a st' with events := events ++ (k a st').events }
    | ⟨.error e, st', events⟩ => ⟨.error e, st', events⟩

/-- Writes down an event. -/
def note (e : Event) : Watch Unit := fun st => ⟨.ok (), st, [e]⟩

/-- A step without events. -/
def quietly (m : Run α) : Watch α := fun st => ⟨(m.exec st).1, (m.exec st).2, []⟩

/-- The outcome of a run that may fail. -/
def attempt (w : Watch α) : Watch (Except MappingError α) := fun st =>
  { w st with result := .ok (w st).result }

/-- Runs a body for another subject and comes back to this one, also after a failure. -/
def within (inner : Context) (w : Watch α) : Watch α := fun st =>
  let inside := w { st with context := inner }
  { inside with state := { inside.state with context := st.context } }

/-- The error of a result, in what a node does on its own. -/
def raisedIn (l : Located) : Except MappingError α → List Event
  | .ok _ => []
  | .error e => [.raised l e]

/-- What a node does on its own, with the statements that it makes and the error that comes up. -/
def own (l : Located) (m : Run α) : Watch α := fun st =>
  let after := (m.exec st).2
  let made := after.graph.statements.drop st.graph.statements.length
  ⟨(m.exec st).1, after, made.map (.stated l) ++ raisedIn l (m.exec st).1⟩

/-- The outcome of a run whose failure is recorded for a node. -/
def guarded (l : Located) (mark : Except MappingError Unit → Event) (w : Watch α) :
    Watch (Except MappingError α) := do
  let result ← attempt w
  note (mark (result.map fun _ => ()))
  if let .error e := result then quietly (Run.recover l.node e)
  return result

/-- Carries out a child node. -/
def child (l : Located) (w : Watch α) : Watch (Except MappingError α) := do
  note (.started l)
  guarded l (.ended l) w

/-- Tries to name the graph of a match. -/
def naming (l : Located) (w : Watch α) : Watch (Except MappingError α) := guarded l (.named l) w

/-! ## Running a watched run -/

theorem pure_apply (a : α) (st : RunState) : (pure a : Watch α) st = ⟨.ok a, st, []⟩ := rfl

theorem bind_ok {w : Watch α} {st : RunState} {a : α} (h : (w st).result = .ok a)
    (k : α → Watch β) : (w >>= k) st =
      { k a (w st).state with events := (w st).events ++ (k a (w st).state).events } := by
  show (match w st with | ⟨.ok a, st', events⟩ => _ | ⟨.error e, st', events⟩ => _) = _
  rcases hw : w st with ⟨r, st', events⟩
  rw [hw] at h
  cases h
  rfl

theorem bind_error {w : Watch α} {st : RunState} {e : MappingError} (h : (w st).result = .error e)
    (k : α → Watch β) : (w >>= k) st = ⟨.error e, (w st).state, (w st).events⟩ := by
  show (match w st with | ⟨.ok a, st', events⟩ => _ | ⟨.error e, st', events⟩ => _) = _
  rcases hw : w st with ⟨r, st', events⟩
  rw [hw] at h
  cases h
  rfl

section
variable {w : Watch α} {st : RunState} {a : α} {e : MappingError} (l : Located)
  (mark : Except MappingError Unit → Event)

theorem attempt_apply (w : Watch α) (st : RunState) :
    attempt w st = ⟨.ok (w st).result, (w st).state, (w st).events⟩ := rfl

theorem guarded_ok (h : (w st).result = .ok a) : guarded l mark w st =
    ⟨.ok (.ok a), (w st).state, (w st).events ++ [mark (.ok ())]⟩ := by
  rw [guarded, bind_ok (by rw [attempt_apply]), attempt_apply, h]
  rfl

/-- An error that does not end the run is recorded, and the run goes on. -/
theorem guarded_error (h : (w st).result = .error e) (he : e.isFatal = false) :
    guarded l mark w st = ⟨.ok (.error e),
      { (w st).state with diagnostics := l.node.reportIn e (w st).state.diagnostics },
      (w st).events ++ [mark (.error e)]⟩ := by
  have hrecover : ∀ st, quietly (Run.recover l.node e) st =
      ⟨.ok (), { st with diagnostics := l.node.reportIn e st.diagnostics }, []⟩ := by
    intro st
    rw [quietly, Run.exec_recover he]
  have hnote : ∀ st, note (mark (.error e)) st = ⟨.ok (), st, [mark (.error e)]⟩ := fun _ => rfl
  rw [guarded, bind_ok (by rw [attempt_apply]), attempt_apply, h]
  dsimp only [Except.map]
  rw [bind_ok (by rw [hnote]), hnote]
  dsimp only
  rw [bind_ok (by rw [hrecover]), hrecover]
  rfl

theorem guarded_fatal (h : (w st).result = .error e) (he : e.isFatal) : guarded l mark w st =
    ⟨.error e, (w st).state, (w st).events ++ [mark (.error e)]⟩ := by
  have hrecover : ∀ st, quietly (Run.recover l.node e) st = ⟨.error e, st, []⟩ := by
    intro st
    rw [quietly, Run.exec_recover_fatal he]
  have hnote : ∀ st, note (mark (.error e)) st = ⟨.ok (), st, [mark (.error e)]⟩ := fun _ => rfl
  rw [guarded, bind_ok (by rw [attempt_apply]), attempt_apply, h]
  dsimp only [Except.map]
  rw [bind_ok (by rw [hnote]), hnote]
  dsimp only
  rw [bind_error (by rw [hrecover]), hrecover]
  rfl

end

/-- The mark comes last, and says how the run ended. -/
theorem guarded_events (l : Located) (mark : Except MappingError Unit → Event) (w : Watch α)
    (st : RunState) : (guarded l mark w st).events =
      (w st).events ++ [mark ((w st).result.map fun _ => ())] := by
  cases hr : (w st).result with
  | ok a => rw [guarded_ok l mark hr]; rfl
  | error e =>
    cases he : e.isFatal with
    | true => rw [guarded_fatal l mark hr he]; rfl
    | false => rw [guarded_error l mark hr he]; rfl

/-- What a node does on its own makes statements and raises errors, both of that node. -/
theorem mem_own {l : Located} {m : Run α} {st : RunState} {event : Event}
    (h : event ∈ (own l m st).events) :
    (∃ s, event = .stated l s) ∨ ∃ e, event = .raised l e := by
  rcases List.mem_append.1 h with h | h
  · obtain ⟨s, _, rfl⟩ := List.mem_map.1 h
    exact .inl ⟨s, rfl⟩
  · cases hr : (m.exec st).1 with
    | ok a =>
      rw [hr] at h
      cases h
    | error e =>
      rw [hr] at h
      exact .inr ⟨e, List.mem_singleton.1 h⟩

theorem filterMap_own_eq_nil {l : Located} {f : Event → Option β}
    (hstated : ∀ s, f (.stated l s) = none) (hraised : ∀ e, f (.raised l e) = none) (m : Run α)
    (st : RunState) : (own l m st).events.filterMap f = [] := by
  refine List.filterMap_eq_nil_iff.2 fun event h => ?_
  rcases mem_own h with ⟨s, rfl⟩ | ⟨e, rfl⟩
  · exact hstated s
  · exact hraised e

theorem filterMap_own {l : Located} {f : Event → Option β} (hraised : ∀ e, f (.raised l e) = none)
    (m : Run α) (st : RunState) : (own l m st).events.filterMap f =
      ((m.exec st).2.graph.statements.drop st.graph.statements.length).filterMap
        fun s => f (.stated l s) := by
  have hsilent : (raisedIn l (m.exec st).1).filterMap f = [] := by
    cases (m.exec st).1 with
    | ok a => rfl
    | error e => exact List.filterMap_cons_none (hraised e)
  rw [own, List.filterMap_append, List.filterMap_map, hsilent, List.append_nil]
  rfl

theorem child_apply (l : Located) (w : Watch α) (st : RunState) :
    child l w st =
      { guarded l (.ended l) w st with
        events := .started l :: (guarded l (.ended l) w st).events } := rfl

end Watch

/-! ## What is seen is what is run -/

/-- A watched run has the result of a run and leaves its state. -/
def Erases {α : Type} (w : Watch α) (m : Run α) : Prop :=
  ∀ st, (w st).result = (m.exec st).1 ∧ (w st).state = (m.exec st).2

namespace Erases

variable {α β : Type}

theorem pure (a : α) : Erases (pure a) (pure a) := fun _ => ⟨rfl, rfl⟩

theorem own (l : Located) (m : Run α) : Erases (.own l m) m := fun _ => ⟨rfl, rfl⟩

theorem bind {w : Watch α} {m : Run α} {k : α → Watch β} {k' : α → Run β} (h : Erases w m)
    (hk : ∀ a, Erases (k a) (k' a)) : Erases (w >>= k) (m >>= k') := by
  intro st
  obtain ⟨hresult, hstate⟩ := h st
  rcases hm : m.exec st with ⟨e | a, st'⟩ <;> rw [hm] at hresult hstate
  · rw [Watch.bind_error hresult, Run.exec_bind_error hm]
    exact ⟨rfl, hstate⟩
  · rw [Watch.bind_ok hresult, Run.exec_bind_ok hm, hstate]
    exact hk a st'

theorem within {w : Watch Unit} {m : Run Unit} (inner : Context) (h : Erases w m) :
    Erases (.within inner w) (Run.within inner m) := by
  intro st
  obtain ⟨hresult, hstate⟩ := h { st with context := inner }
  rw [Run.exec_within, Watch.within]
  exact ⟨hresult, by rw [hstate]⟩

theorem guarded {w : Watch α} {m : Run α} (l : Located) (mark : Except MappingError Unit → Event)
    (h : Erases w m) : Erases (.guarded l mark w) (Run.guarded l.node m) := by
  intro st
  obtain ⟨hresult, hstate⟩ := h st
  rcases hm : m.exec st with ⟨e | a, st'⟩ <;> rw [hm] at hresult hstate
  · cases he : e.isFatal with
    | true =>
      rw [Watch.guarded_fatal l mark hresult he, Run.exec_guarded_fatal l.node hm he]
      exact ⟨rfl, hstate⟩
    | false =>
      rw [Watch.guarded_error l mark hresult he, Run.exec_guarded_error l.node hm he, hstate]
      exact ⟨rfl, rfl⟩
  · rw [Watch.guarded_ok l mark hresult, Run.exec_guarded_ok l.node hm]
    exact ⟨rfl, hstate⟩

theorem child {w : Watch α} {m : Run α} (l : Located) (h : Erases w m) :
    Erases (.child l w) (Run.guarded l.node m) :=
  h.guarded l (.ended l)

end Erases

end Triplify.Mapping
