import Triplify.Error
import Triplify.Decimal.Read
import Triplify.Text.Casing
/-!
# Attribute values

Reading the booleans and integers that attributes of a mapping hold.
-/

namespace Triplify.Attribute

/-- Reads `true` or `false` in any case, with white space around it. -/
def boolean (tag name value : String) : Except MappingError Bool :=
  let word := Text.lowercase (Text.trim value)
  if word == "true" then .ok true
  else if word == "false" then .ok false
  else .error (.badAttribute tag name value .boolean)

/-- Reads an integer of 64 bits, with white space around it. -/
def integer (tag name value : String) : Except MappingError Int :=
  match Decimal.int64? (Text.trim value) with
  | some i => .ok i
  | none => .error (.badAttribute tag name value .integer)

end Triplify.Attribute
