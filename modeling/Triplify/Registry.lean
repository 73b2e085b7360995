import Triplify.Error
import Triplify.Text.Blank
/-!
# Counters and unique identifiers

Named counters and named identifiers of one document. A counter is defined with a first value and
a direction and then stepped. An identifier gets a fresh value each time it is generated; fresh
values come from a numbered supply, so that none is given twice.
-/

namespace Triplify

/-- The direction of a counter. -/
inductive Iteration
  | increment
  | decrement
deriving Repr, DecidableEq, Inhabited

/-- Reads a direction; every text but `decrement`, in any case, counts up. -/
def Iteration.ofText (s : String) : Iteration :=
  if (Text.trimChars s.toList).map Char.toLower = "decrement".toList then decrement
  else increment

/-- A counter: its value and direction. -/
structure Counter where
  value : Int
  iteration : Iteration
deriving Repr, DecidableEq

/-- The counter after one step. -/
def Counter.step (c : Counter) : Counter :=
  match c.iteration with
  | .increment => { c with value := c.value + 1 }
  | .decrement => { c with value := c.value - 1 }

/-- Values by name. -/
structure Named (α : Type) where
  entries : List (String × α) := []
deriving Repr, Inhabited

namespace Named

/-- The value of a name. -/
def get? {α : Type} (t : Named α) (name : String) : Option α :=
  t.entries.lookup name

/-- Gives a name a value, in place of an earlier one. -/
def set {α : Type} (t : Named α) (name : String) (value : α) : Named α :=
  ⟨(name, value) :: t.entries.filter (·.1 ≠ name)⟩

end Named

/-- The counters and identifiers of one document, and how many fresh values have been taken. -/
structure Registries where
  counters : Named Counter := {}
  identifiers : Named String := {}
  taken : Nat := 0
deriving Repr, Inhabited

namespace Registries

/-- Creates a counter, or resets one to a value and direction. -/
def define (r : Registries) (name : String) (value : Int) (iteration : Iteration) : Registries :=
  { r with counters := r.counters.set name ⟨value, iteration⟩ }

/-- Steps a counter. -/
def iterate (r : Registries) (name : String) : Except MappingError (Int × Registries) :=
  match r.counters.get? name with
  | none => .error (.unknownCounter name)
  | some c => .ok (c.step.value, { r with counters := r.counters.set name c.step })

/-- The value of a counter. -/
def counter (r : Registries) (name : String) : Except MappingError Int :=
  match r.counters.get? name with
  | none => .error (.unknownCounter name)
  | some c => .ok c.value

/-- The `k`-th fresh identifier: 32 hexadecimal digits in the layout of a random UUID. -/
def freshIdentifier (k : Nat) : String :=
  let digits := Nat.toDigits 16 k
  "00000000000040008000" ++ String.ofList (List.replicate (12 - digits.length) '0' ++ digits)

/-- Gives a named identifier a fresh value. -/
def generate (r : Registries) (name : String) : String × Registries :=
  let value := freshIdentifier (r.taken + 1)
  (value, { r with identifiers := r.identifiers.set name value, taken := r.taken + 1 })

/-- The value of a named identifier. -/
def identifier (r : Registries) (name : String) : Except MappingError String :=
  match r.identifiers.get? name with
  | none => .error (.unknownIdentifier name)
  | some value => .ok value

end Registries

end Triplify
