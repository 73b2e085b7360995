import Triplify.Proofs.Walk.Account
/-!
# Acts of nodes

All that nodes do on their own, apart from carrying out children, comes from a few acts. Each act has
an answer, which says how the node goes on. `Act.step` says for each act what it may change and with
which errors it may fail.
-/

namespace Triplify.Mapping

/-- A node that opens a subject for its children. -/
inductive Opening
  | resource
  | blank

/-- What a node does on its own. -/
inductive Act
  | opens (o : Opening)
  | select
  | sealing
  | test
  | candidates
  | hits (texts : List String) (branch : Located)
  | target
  | enter (body : Located)
  | identifier
  | triple
  | type
  | counter
  | uniqueIdentifier
  | error
  | loneElse
  | severalDefaults
  | misplaced
  | tooDeep (name : String)

namespace Act

/-- What an act finds out. -/
abbrev Answer : Act → Type
  | opens _ => Context
  | select => List XPath.NodeRef
  | test => Bool
  | candidates => List String
  | hits _ _ => Nat
  | target => Located
  | _ => Unit

/-- A node with the tag can act so. -/
def Fits : Act → Tag → Prop
  | opens .resource, t => t = .resource
  | opens .blank, t => t = .bnode
  | select, t => t = .mapping
  | sealing, t => t = .mapping
  | test, t => t = .condition
  | candidates, t => t = .switch
  | hits _ _, t => t = .switch
  | target, t => t = .useNamedMapping
  | enter _, _ => True
  | identifier, t => t = .identifier
  | triple, t => t = .triple
  | type, t => t = .type
  | counter, t => t = .counter
  | uniqueIdentifier, t => t = .uniqueIdentifier
  | error, t => t = .error
  | loneElse, t => t = .otherwise
  | severalDefaults, t => t = .switch
  | misplaced, t => t = .branch ∨ t = .fallback
  | tooDeep _, _ => True

/-- A node with the tag acts so by itself. A node is not too deep by itself: that depends on how it is
come to. -/
def Suits : Act → Tag → Prop
  | tooDeep _, _ => False
  | a, t => a.Fits t

theorem Suits.fits {a : Act} {t : Tag} (h : a.Suits t) : a.Fits t := by
  cases a with
  | tooDeep name => exact h.elim
  | _ => exact h

end Act

/-! ## Carrying out acts -/

/-- The first named mapping of a name, which has to be there. -/
def Setting.named (s : Setting) (name : String) : Except MappingError Located :=
  match s.namedMapping? name with
  | some found => .ok found
  | none => .error (.missingNamedMapping name)

/-- The named mapping that a node uses. -/
def Setting.target (s : Setting) (n : Node) : Except MappingError Located := do
  s.named (← n.require "name")

/-- Acts for a node at a data node. -/
def Act.run (s : Setting) (l : Located) (data : XPath.NodeRef) : (a : Act) → Run a.Answer
  | opens .resource => newSubject s l.node data
  | opens .blank => newBlank l.node
  | select => selected s l.node data
  | sealing => assignGraph s l.node data
  | test => conditionHolds s l.node data
  | candidates => switchCandidates s l.node data
  | hits texts branch => branchHits s texts branch.node data
  | target => Run.ofExcept (s.target l.node)
  | enter _ => return
  | identifier => runIdentifier s l.node data
  | triple => runTriple s l.node data
  | type => runType s l.node data
  | counter => runCounter l.node
  | uniqueIdentifier => runUniqueIdentifier l.node
  | error => runError l.node
  | loneElse => throw (.config (.elseWithoutIf l.node.name))
  | severalDefaults => throw (.config (.severalDefaults l.node.name))
  | misplaced => throw (.unrecognizedTag l.node.name l.node.source)
  | tooDeep name => throw (.processing (.tooDeep maxNesting name))

/-! ## What acts may do -/

/-- No change. -/
def NoChange (_ : Change) : Prop := False

/-- A failure with one error, and nothing else. -/
def FailureOnly (r : Except MappingError Located) : Change → Prop
  | .failed e => r = .error e
  | _ => False

/-- The changes that an act of a node may make, and the errors that it may fail with. -/
def Act.May (s : Setting) (l : Located) : Act → Change → Prop
  | opens .resource => OpenOnly
  | opens .blank => BlankOnly
  | sealing => SealOnly
  | identifier => NameOnly
  | triple => StatementOnly
  | type => StatementOnly
  | counter => RegistriesOnly
  | uniqueIdentifier => RegistriesOnly
  | target => FailureOnly (s.target l.node)
  | loneElse => FailureOnly (.error (.config (.elseWithoutIf l.node.name)))
  | severalDefaults => FailureOnly (.error (.config (.severalDefaults l.node.name)))
  | misplaced => FailureOnly (.error (.unrecognizedTag l.node.name l.node.source))
  | tooDeep name => FailureOnly (.error (.processing (.tooDeep maxNesting name)))
  | _ => NoChange

theorem Setting.target_recoverable (s : Setting) (n : Node) : Recoverable (s.target n) := by
  refine (n.require_plain "name").recoverable.bind fun name => ?_
  unfold Setting.named
  split <;> simp

/-- What an act may do, which is all but the warnings of an `<error>` node. -/
theorem Act.step (s : Setting) (l : Located) (data : XPath.NodeRef) {a : Act} (h : a ≠ .error) :
    Step (a.May s l) (a.run s l data) := by
  have hthrow : ∀ e : MappingError, e.isFatal = false →
      Step (FailureOnly (.error e)) (throw e : Run Unit) := fun e he => .throw he rfl
  cases a with
  | opens o =>
    cases o with
    | resource => exact newSubject_step s l.node data
    | blank => exact newBlank_step l.node
  | select => exact selected_step s l.node data
  | sealing => exact assignGraph_step s l.node data
  | test => exact conditionHolds_step s l.node data
  | candidates => exact switchCandidates_step s l.node data
  | hits texts branch => exact branchHits_step s branch.node data texts
  | target => exact .given _ (s.target_recoverable l.node) fun e he _ => he
  | enter body => exact .pure ()
  | identifier => exact runIdentifier_step s l.node data
  | triple => exact runTriple_step s l.node data
  | type => exact runType_step s l.node data
  | counter => exact runCounter_step l.node
  | uniqueIdentifier => exact runUniqueIdentifier_step l.node
  | error => exact (h rfl).elim
  | loneElse => exact hthrow _ rfl
  | severalDefaults => exact hthrow _ rfl
  | misplaced => exact hthrow _ rfl
  | tooDeep name => exact hthrow _ rfl

theorem Node.verdict_error {n : Node} {e : MappingError} (h : n.verdict = .error e) :
    e.isPlain ∨ ∃ message, e = .userDefined message := by
  cases hmessage : n.require "message" with
  | error e' =>
    rw [verdict, hmessage] at h
    cases h
    exact .inl (n.require_plain "message" e hmessage)
  | ok message =>
    rw [verdict, hmessage] at h
    rcases hexit : flag n "exit" false with e' | _ | _
    · simp only [bind, Except.bind, hexit] at h
      cases h
      exact .inl (flag_plain n "exit" false e hexit)
    · simp [bind, Except.bind, hexit, pure, Except.pure] at h
    · simp only [bind, Except.bind, hexit] at h
      cases h
      exact .inr ⟨message, rfl⟩

theorem Setting.target_error {s : Setting} {n : Node} {e : MappingError} (h : s.target n = .error e) :
    e.isPlain ∨ ∃ name, e = .missingNamedMapping name := by
  rw [Setting.target] at h
  cases hname : n.require "name" with
  | error e' =>
    rw [hname] at h
    cases h
    exact .inl (n.require_plain "name" e hname)
  | ok name =>
    rw [hname] at h
    have hnamed : s.named name = .error e := h
    unfold Setting.named at hnamed
    split at hnamed
    · cases hnamed
    · cases hnamed
      exact .inr ⟨name, rfl⟩

/-! ## How acts fail -/

/-- An error that an act of the node may fail with. -/
inductive Act.Fault (l : Located) : Act → MappingError → Prop
  | plain {a : Act} {e : MappingError} : e.isPlain → Fault l a e
  | config {a : Act} (fault : ConfigFault) : Fault l a (.config fault)
  | missing (name : String) : Fault l .target (.missingNamedMapping name)
  | misplaced : Fault l .misplaced (.unrecognizedTag l.node.name l.node.source)
  | tooDeep (name : String) : Fault l (.tooDeep name) (.processing (.tooDeep maxNesting name))

theorem Act.May.fault {s : Setting} {l : Located} {a : Act} {e : MappingError}
    (h : a.May s l (.failed e)) : a.Fault l e := by
  cases a with
  | target =>
    obtain hplain | ⟨name, rfl⟩ := Setting.target_error h
    · exact .plain hplain
    · exact .missing name
  | loneElse => cases h; exact .config _
  | severalDefaults => cases h; exact .config _
  | misplaced => cases h; exact .misplaced
  | tooDeep name => cases h; exact .tooDeep name
  | opens o => cases o <;> exact h.elim
  | _ => exact h.elim

/-- An act that fails does so with one of its faults, ends the run, or is about a subject that is not
there. -/
theorem Act.fails {s : Setting} {l : Located} {a : Act} (ha : a.Fits l.node.tag)
    {data : XPath.NodeRef} {st : RunState} {e : MappingError}
    (he : ((a.run s l data).exec st).1 = .error e) :
    a.Fault l e ∨ (∃ message, e = .userDefined message) ∨
      ∃ handle, e = .processing (.unknownHandle handle) := by
  by_cases herror : a = .error
  · subst herror
    rw [Act.run, exec_runError ha] at he
    exact (Node.verdict_error he).imp .plain .inl
  obtain hplain | ⟨hfailed, -⟩ | ⟨_, handle, -, -, -, heq⟩ := (Act.step s l data herror).failure st he
  · exact .inl (.plain hplain)
  · exact .inl hfailed.fault
  · exact .inr (.inr ⟨handle, heq⟩)

end Triplify.Mapping
