import Triplify.Proofs.Registry.Reading
import Triplify.Proofs.Walk.Moment
/-!
# Counters and identifiers in a run

The registries of a run change only by counter and identifier nodes that succeed, each with the call
that its attributes say. At every moment they answer what the calls so far say:
`registries_tell_their_history`.
-/

namespace Triplify.Mapping

/-! ## Calls of nodes -/

/-- What a counter node tells the registries. -/
def Node.counterCall (n : Node) : Except MappingError RegistryCall := do
  let name ← n.require "name"
  if ← flag n "iterate" false then
    return .iterate name
  else
    let value ← initialValue n
    return .define name value (((n.get? "iteration").map Iteration.ofText).getD .increment)

/-- The identifier that a node gives a new value, unless it is switched off. -/
def Node.regenerated (n : Node) : Except MappingError (Option String) := do
  let name ← n.require "name"
  return if ← flag n "generate" true then some name else none

theorem exec_runCounter (n : Node) (st : RunState) : (runCounter n).exec st =
    match n.counterCall >>= st.registries.perform with
    | .ok r => (.ok (), { st with registries := r })
    | .error e => (.error e, st) := by
  unfold runCounter Node.counterCall
  cases n.require "name" with
  | error e => rfl
  | ok name =>
    cases flag n "iterate" false with
    | error e => rfl
    | ok iterate =>
      cases iterate with
      | true =>
        show (Run.ofExcept (st.registries.iterate name) >>= fun stepped =>
          modify fun st => { st with registries := stepped.2 } : Run Unit).exec st =
          match (st.registries.iterate name).map (·.2) with
          | .ok r => (.ok (), { st with registries := r })
          | .error e => (.error e, st)
        cases st.registries.iterate name <;> rfl
      | false => cases initialValue n <;> rfl

theorem exec_runUniqueIdentifier (n : Node) (st : RunState) : (runUniqueIdentifier n).exec st =
    match n.regenerated with
    | .ok (some name) => (.ok (), { st with registries := (st.registries.generate name).2 })
    | .ok none => (.ok (), st)
    | .error e => (.error e, st) := by
  unfold runUniqueIdentifier Node.regenerated
  cases n.require "name" with
  | error e => rfl
  | ok name =>
    cases flag n "generate" true with
    | error e => rfl
    | ok generate => cases generate <;> rfl

/-! ## Calls of moments -/

/-- The call that an act of a node stands for, if its attributes can be read. -/
def Act.call? (n : Node) : Act → Option RegistryCall
  | counter => n.counterCall.toOption
  | uniqueIdentifier => n.regenerated.toOption.join.map .generate
  | _ => none

/-- The call that is made at a moment. An act that fails makes none. -/
def Moment.call? (s : Setting) (m : Moment) : Option RegistryCall :=
  if (m.outcome s).isOk then m.act.call? m.caller.node else none

/-- Only counters and identifiers have to do with the registries. -/
theorem Act.keeps_registries {s : Setting} {l : Located} {a : Act} (ha : s.Admits l a)
    (hcounter : a ≠ .counter) (hidentifier : a ≠ .uniqueIdentifier) (data : XPath.NodeRef)
    (st : RunState) : ((a.run s l data).exec st).2.registries = st.registries := by
  have hmay : ¬ a.May s l .registries := by
    intro h
    cases a with
    | opens o => cases o <;> exact h.elim
    | counter => exact hcounter rfl
    | uniqueIdentifier => exact hidentifier rfl
    | _ => exact h.elim
  exact ha.keeps (R := fun st st' => st'.registries = st.registries) (fun _ => rfl)
    (fun h h' => h'.trans h) (fun _ _ => rfl) (fun _ _ _ _ _ => rfl) (fun h => (hmay h).elim)
    (fun _ _ => rfl) data st

namespace Moment

variable {s : Setting} {m : Moment}

theorem call?_of_error {e : MappingError} (h : m.outcome s = .error e) : m.call? s = none := by
  rw [call?, h]
  rfl

theorem call?_of_ok {answer : m.act.Answer} (h : m.outcome s = .ok answer) :
    m.call? s = m.act.call? m.caller.node := by
  rw [call?, h]
  rfl

/-- A moment is one of a call, which does not fail, or leaves the registries as they are. -/
inductive Registers (s : Setting) (m : Moment) : Prop
  | nothing : m.call? s = none → (m.after s).registries = m.start.registries → Registers s m
  | call (c : RegistryCall) : m.call? s = some c →
      m.start.registries.perform c = .ok (m.after s).registries → Registers s m

theorem registers_counter (h : m.act = .counter) : m.Registers s := by
  obtain ⟨f, l, a, data, st⟩ := m
  cases h
  have hrun := exec_runCounter l.node st
  cases hcall : l.node.counterCall with
  | error e =>
    rw [hcall] at hrun
    exact .nothing (call?_of_error (congrArg Prod.fst hrun)) (congrArg (·.2.registries) hrun)
  | ok c =>
    have hperform : (Except.ok c >>= st.registries.perform) = st.registries.perform c := rfl
    rw [hcall, hperform] at hrun
    -- The attributes can be read, but the counter may be unknown.
    cases hc : st.registries.perform c with
    | error e =>
      rw [hc] at hrun
      exact .nothing (call?_of_error (congrArg Prod.fst hrun)) (congrArg (·.2.registries) hrun)
    | ok r =>
      rw [hc] at hrun
      have hok : Moment.outcome s ⟨f, l, .counter, data, st⟩ = .ok () := congrArg Prod.fst hrun
      have hafter : (Moment.after s ⟨f, l, .counter, data, st⟩).registries = r :=
        congrArg (·.2.registries) hrun
      exact .call c ((call?_of_ok hok).trans (congrArg Except.toOption hcall)) (hafter ▸ hc)

theorem registers_uniqueIdentifier (h : m.act = .uniqueIdentifier) : m.Registers s := by
  obtain ⟨f, l, a, data, st⟩ := m
  cases h
  have hrun := exec_runUniqueIdentifier l.node st
  have hcall : ∀ name, l.node.regenerated = .ok name →
      Act.uniqueIdentifier.call? l.node = name.map .generate := by
    intro name hname
    rw [Act.call?, hname]
    cases name <;> rfl
  cases hname : l.node.regenerated with
  | error e =>
    rw [hname] at hrun
    exact .nothing (call?_of_error (congrArg Prod.fst hrun)) (congrArg (·.2.registries) hrun)
  | ok name =>
    rw [hname] at hrun
    cases name with
    | none =>
      have hok : Moment.outcome s ⟨f, l, .uniqueIdentifier, data, st⟩ = .ok () :=
        congrArg Prod.fst hrun
      exact .nothing ((call?_of_ok hok).trans (hcall none hname)) (congrArg (·.2.registries) hrun)
    | some name =>
      have hok : Moment.outcome s ⟨f, l, .uniqueIdentifier, data, st⟩ = .ok () :=
        congrArg Prod.fst hrun
      have hafter : (Moment.after s ⟨f, l, .uniqueIdentifier, data, st⟩).registries =
          (st.registries.generate name).2 := congrArg (·.2.registries) hrun
      exact .call (.generate name) ((call?_of_ok hok).trans (hcall (some name) hname))
        (hafter ▸ rfl)

theorem registers (hm : s.Admits m.caller m.act) : m.Registers s := by
  by_cases hcounter : m.act = .counter
  · exact registers_counter hcounter
  by_cases hidentifier : m.act = .uniqueIdentifier
  · exact registers_uniqueIdentifier hidentifier
  have hcall : m.act.call? m.caller.node = none := by
    cases hact : m.act with
    | counter => exact (hcounter hact).elim
    | uniqueIdentifier => exact (hidentifier hact).elim
    | _ => rfl
  refine .nothing ?_ (Act.keeps_registries hm hcounter hidentifier m.data m.start)
  rw [call?, hcall]
  exact ite_self none

end Moment

/-! ## Whole runs -/

/-- The registries at the end of a run have been told the calls of its moments. -/
theorem Linked.registries {s : Setting} {ms : List Moment} {st st' : RunState}
    (h : Linked s st ms st') (hregisters : ∀ m ∈ ms, m.Registers s) :
    st'.registries = st.registries.attemptAll (ms.filterMap (Moment.call? s)) := by
  induction ms generalizing st with
  | nil => exact Alike.registries h
  | cons m rest ih =>
    rw [ih h.2 fun m' hm' => hregisters m' (.tail _ hm')]
    cases hregisters m (.head _) with
    | nothing hnone hsame => rw [List.filterMap_cons_none hnone, hsame, h.1.registries]
    | call c hcall hperform =>
      rw [List.filterMap_cons_some hcall, ← Registries.attempt_of_perform hperform, h.1.registries]
      rfl

end Triplify.Mapping
