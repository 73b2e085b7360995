import Triplify.Proofs.Graph.Log
/-!
# Calls that fail

Calls are carried out in place, one after the other, and a call that fails leaves the graph as its
steps left it. `execAll_eq`: that is the graph of the calls that succeed.
`failed_call_changes_nothing`: a call that fails leaves the graph as it was, and the calls after it
go on as if it had not been made.
-/

namespace Triplify

namespace GraphEdit

/-- Carries out calls in place, whether they fail or not: the answers in order, and the graph after
them. -/
def execAll : List GraphCall → Graph → List (Except MappingError (Option Nat)) × Graph
  | [], g => ([], g)
  | c :: rest, g =>
    let after := c.edit.exec g
    let others := execAll rest after.2
    (after.1 :: others.1, others.2)

theorem exec_edit_error {c : GraphCall} {g : Graph} {e : MappingError}
    (h : (c.edit.exec g).1 = .error e) : (c.edit.exec g).2 = g := by
  rw [exec_edit] at h ⊢
  cases hd : g.toNaming.deeds g.slots.size c with
  | ok r => simp [hd, Graph.outcome] at h
  | error e => rfl

theorem execAll_append (before after : List GraphCall) (g : Graph) :
    execAll (before ++ after) g =
      ((execAll before g).1 ++ (execAll after (execAll before g).2).1,
        (execAll after (execAll before g).2).2) := by
  induction before generalizing g with
  | nil => rfl
  | cons c rest ih => simp only [List.cons_append, execAll, ih]

/-- A call in place leaves the graph that there is after the call. -/
theorem exec_edit_eq (c : GraphCall) (g : Graph) :
    c.edit.exec g = ((g.call c).map (·.1), g.after c) := by
  rw [exec_edit, Graph.after, Graph.call_eq]
  cases g.toNaming.deeds g.slots.size c <;> rfl

/-- Calls in place have the answers of the calls, and leave the graph that there is after them. -/
theorem execAll_eq (calls : List GraphCall) (g : Graph) :
    execAll calls g = (g.answers calls, g.afterAll calls) := by
  induction calls generalizing g with
  | nil => rfl
  | cons c rest ih => rw [execAll, exec_edit_eq, ih]; rfl

end GraphEdit

open GraphEdit in
/-- A call that fails, after any calls on a new graph and whatever its arguments are, leaves the graph
as it was: its slots with their names, its statements, the graphs that are sealed and the format. The
calls after it have the same answers as without it, and give the same statements and the same
format. -/
theorem failed_call_changes_nothing (v : Naming) (format : OutputFormat)
    (before rest : List GraphCall) (c : GraphCall) (e : MappingError) :
    let fresh : Graph := { toNaming := v, format := format }
    let g := (execAll before fresh).2
    let made := execAll (before ++ c :: rest) fresh
    let notMade := execAll (before ++ rest) fresh
    (c.edit.exec g).1 = .error e →
      (c.edit.exec g).2 = g ∧
      made.1 = (execAll before fresh).1 ++ .error e :: (execAll rest g).1 ∧
      notMade.1 = (execAll before fresh).1 ++ (execAll rest g).1 ∧
      made.2 = notMade.2 ∧
      made.2.quads = notMade.2.quads ∧
      made.2.format = notMade.2.format := by
  intro fresh g made notMade h
  have hkept : (c.edit.exec g).2 = g := exec_edit_error h
  have hmade : made = ((execAll before fresh).1 ++ .error e :: (execAll rest g).1,
      (execAll rest g).2) := by
    simp only [made, execAll_append, execAll]
    rw [h, hkept]
  have hnot : notMade = ((execAll before fresh).1 ++ (execAll rest g).1, (execAll rest g).2) :=
    execAll_append before rest fresh
  refine ⟨hkept, by rw [hmade], by rw [hnot], ?_, ?_, ?_⟩ <;> rw [hmade, hnot]

open GraphEdit in
/-- A link whose target is not there fails after its subject has been found. -/
theorem failed_link_changes_nothing :
    let fresh : Graph := { toNaming := ⟨.standard, none⟩, format := .turtle }
    let c : GraphCall := .link 0 ⟨"rdfs", "seeAlso"⟩ 7
    let rest : List GraphCall := [.addBlank ⟨"owl", "Thing"⟩, .sealAs "urn:g"]
    (c.edit.exec (execAll [.addResource] fresh).2).1 = .error (.processing (.unknownHandle 7)) ∧
      (execAll (.addResource :: c :: rest) fresh).2.quads =
        (execAll (.addResource :: rest) fresh).2.quads := by
  intro fresh c rest
  obtain ⟨-, -, -, -, hquads, -⟩ :=
    failed_call_changes_nothing ⟨.standard, none⟩ .turtle [.addResource] rest c _ rfl
  exact ⟨rfl, hquads⟩

end Triplify
