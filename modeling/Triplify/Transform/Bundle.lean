import Triplify.Json
import Triplify.Regex.Replace
import Triplify.Transform
/-!
# Transform bundles

A bundle is a JSON text that declares transforms as lists of steps, each applied to the result of
the one before. `Bundle.ofText` reads the declarations and checks patterns and the names of built-in
transforms.
-/

namespace Triplify

/-- A step as it is declared. -/
inductive StepDeclaration
  | replace (pattern replacement : String)
  | trim
  | lowercase
  | uppercase
  | prepend (value : String)
  | append (value : String)
  | builtin (name : String)
deriving Repr, DecidableEq

/-- A step that can be applied. -/
inductive BundleStep
  | replace (pattern : Pattern) (replacement : String)
  | trim
  | lowercase
  | uppercase
  | prepend (value : String)
  | append (value : String)
  | builtin (b : Builtin)

/-- A named set of transforms. -/
structure Bundle where
  name : String
  transforms : List (String × List BundleStep)

namespace BundleStep

/-- Checks a declared step. -/
def ofDeclaration : StepDeclaration → Except MappingError BundleStep
  | .replace pattern replacement =>
    match Pattern.parse pattern with
    | some p => .ok (replace p replacement)
    | none => .error (.config (.badPattern pattern))
  | .trim => .ok trim
  | .lowercase => .ok lowercase
  | .uppercase => .ok uppercase
  | .prepend value => .ok (prepend value)
  | .append value => .ok (append value)
  | .builtin name =>
    match Builtin.ofName? (TransformRegistry.key name) with
    | some b => .ok (builtin b)
    | none => .error (.unknownTransform name)

/-- The text after a step. -/
def apply (s : String) : BundleStep → String
  | replace p replacement => p.replaceAll replacement s
  | trim => Text.trim s
  | lowercase => Text.lowercase s
  | uppercase => Text.uppercase s
  | prepend value => value ++ s
  | append value => s ++ value
  | builtin b => b.apply s

end BundleStep

namespace StepDeclaration

/-- The only member of a name. Nothing if there is none or another one. -/
def only? (members : List (String × Json)) (name : String) : Option Json :=
  match members.filter (·.1 == name) with
  | [(_, v)] => some v
  | _ => none

/-- The text of the only member of a name. -/
def text? (members : List (String × Json)) (name : String) : Option String :=
  (only? members name).bind Json.string?

/-- Reads the replacement text of a step, which may be missing. -/
def replacement? (members : List (String × Json)) : Option String :=
  if members.any (·.1 == "with") then text? members "with" else some ""

/-- Reads a step with its fields by name. Fields that the operation does not have are ignored. -/
def ofMembers? (members : List (String × Json)) : Option StepDeclaration :=
  match text? members "op" with
  | some "replace" =>
    match text? members "pattern", replacement? members with
    | some pattern, some replacement => some (replace pattern replacement)
    | _, _ => none
  | some "trim" => some trim
  | some "lowercase" => some lowercase
  | some "uppercase" => some uppercase
  | some "prefix" => (text? members "value").map prepend
  | some "suffix" => (text? members "value").map append
  | some "builtin" => (text? members "name").map builtin
  | _ => none

/-- Reads a step with its fields in order. -/
def ofItems? : List Json → Option StepDeclaration
  | [.string "replace", .string pattern] => some (replace pattern "")
  | [.string "replace", .string pattern, .string replacement] =>
    some (replace pattern replacement)
  | [.string "trim"] => some trim
  | [.string "lowercase"] => some lowercase
  | [.string "uppercase"] => some uppercase
  | [.string "prefix", .string value] => some (prepend value)
  | [.string "suffix", .string value] => some (append value)
  | [.string "builtin", .string name] => some (builtin name)
  | _ => none

/-- Reads a step. -/
def ofJson? : Json → Option StepDeclaration
  | .object members => ofMembers? members
  | .array items => ofItems? items
  | _ => none

end StepDeclaration

namespace Bundle

/-- Reads the declared transforms; of several with one name the last counts. -/
def declarations? : Json → Option (List (String × List StepDeclaration))
  | .object members => do
    let all ← members.mapM fun (name, v) => match v with
      | .array steps => (steps.mapM StepDeclaration.ofJson?).map (Prod.mk name)
      | _ => none
    return all.zipIdx.filterMap fun ((name, steps), i) =>
      if (all.drop (i + 1)).any (·.1 == name) then none else some (name, steps)
  | _ => none

/-- Reads the name of a bundle, which may be missing. -/
def name? : Option Json → Option (Option String)
  | none => some none
  | some .null => some none
  | some (.string s) => some (some s)
  | some _ => none

/-- Reads a bundle: its name, if it has one, and the declared transforms. -/
def ofJson? : Json → Option (Option String × List (String × List StepDeclaration))
  | .object members =>
    if members.any fun (name, _) => name ≠ "name" && name ≠ "transforms" then none
    else if (members.filter (·.1 == "name")).length > 1 then none
    else
      match name? (Json.member? members "name"),
        (StepDeclaration.only? members "transforms").bind declarations? with
      | some name, some declared => some (name, declared)
      | _, _ => none
  | .array [name, transforms] =>
    match name? (some name), declarations? transforms with
    | some name, some declared => some (name, declared)
    | _, _ => none
  | _ => none

/-- Reads and checks a bundle. Without a name of its own it takes the given one. -/
def ofText (defaultName text : String) : Except MappingError Bundle :=
  match (Json.ofText? text).bind ofJson? with
  | none => .error .json
  | some (name, declared) => do
    let transforms ← declared.mapM fun (name, steps) => do
      let steps ← steps.mapM BundleStep.ofDeclaration
      return (TransformRegistry.key name, steps)
    return ⟨name.getD defaultName, transforms⟩

/-- The transform that applies all steps of a declaration in order. -/
def lookup (b : Bundle) (name : String) : Option Transform :=
  (b.transforms.reverse.lookup name).map fun steps s => steps.foldl BundleStep.apply s

/-- The bundle as a source of transforms. -/
def provider (b : Bundle) : Provider := ⟨b.name, b.lookup⟩

end Bundle

end Triplify
