/-!
# Diagnostics

The warnings and errors recorded while a document is mapped, and the outcome they amount to.
-/

namespace Triplify

/-- A recorded message, with the text of the configuration or the file that it is about. -/
structure Diagnostic where
  message : String
  source : Option String
deriving Repr, DecidableEq

/-- The warnings and errors recorded so far, each in order. -/
structure Diagnostics where
  warnings : List Diagnostic := []
  errors : List Diagnostic := []
deriving Repr, DecidableEq, Inhabited

namespace Diagnostics

/-- Records a warning. -/
def warn (d : Diagnostics) (message : String) (source : Option String) : Diagnostics :=
  { d with warnings := d.warnings ++ [⟨message, source⟩] }

/-- Records an error. -/
def error (d : Diagnostics) (message : String) (source : Option String) : Diagnostics :=
  { d with errors := d.errors ++ [⟨message, source⟩] }

/-- Some error has been recorded. -/
def hasErrors (d : Diagnostics) : Bool := !d.errors.isEmpty

/-- Some warning has been recorded. -/
def hasWarnings (d : Diagnostics) : Bool := !d.warnings.isEmpty

/-- The messages of one record followed by those of another. -/
def merge (d e : Diagnostics) : Diagnostics :=
  ⟨d.warnings ++ e.warnings, d.errors ++ e.errors⟩

end Diagnostics

/-- What the diagnostics of a document amount to. -/
inductive Outcome
  | success
  | successWithWarnings (warnings : List Diagnostic)
  | failure (errors warnings : List Diagnostic)
deriving Repr, DecidableEq

/-- Any error is a failure; warnings alone are not. -/
def Diagnostics.outcome (d : Diagnostics) : Outcome :=
  if d.hasErrors then .failure d.errors d.warnings
  else if d.hasWarnings then .successWithWarnings d.warnings
  else .success

end Triplify
