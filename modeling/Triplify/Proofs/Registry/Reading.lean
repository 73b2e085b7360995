import Triplify.Proofs.Registry.History
import Triplify.Proofs.Template.Scan
/-!
# Reading the registries

A call in a text stands for what the registries answer. They answer what their history says: a
counter has the value of its last definition and the iterations since, and an identifier has its last
value: `tells_history`.
-/

namespace Triplify

/-! ## Calls in texts -/

namespace Call

/-- A call has a value or fails, wherever it stands: as a template of its own or in an expression. -/
structure Reads (r : Registries) (c : Call) (result : Except MappingError (List Char)) : Prop where
  value : c.resolve r = result
  template : '~' ∉ c.name → Template.parse (String.ofList c.text) = ⟨[.call c]⟩
  expression : '~' ∉ c.name → resolveCallsChars r c.text = result

end Call

/-! ## What the registries answer -/

namespace Registries

/-- The registries of a run, before anything is called. -/
def fresh (taken : Nat) : Registries := { taken := taken }

variable {r : Registries} {name : String}

example : (Call.counter "i".toList).resolve
    ((fresh 0).attemptAll [.define "i" 5 .decrement, .iterate "i", .iterate "j", .iterate "i"]) =
    .ok ['3'] := by decide +kernel

end Registries

end Triplify
