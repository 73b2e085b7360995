import Triplify.Error
import Triplify.Digest
import Triplify.Decimal.Read
import Triplify.Text.Blank
import Triplify.Text.Casing
import Triplify.Text.Search
/-!
# Transforms

Named functions on texts that a mapping applies to its values. Four of them are always there; more
come from providers, which are asked in the order in which they were registered. A transform that is
always there cannot be shadowed.
-/

namespace Triplify

/-- A function on texts. -/
abbrev Transform := String → String

/-- A source of transforms. It is asked with a trimmed name in lower case. -/
structure Provider where
  name : String
  lookup : String → Option Transform

/-- The transforms that are always there. -/
inductive Builtin
  | md5
  | lowercase
  | currency
  | denomination
deriving Repr, DecidableEq

namespace Builtin

/-- The transform of a name. -/
def ofName? : String → Option Builtin
  | "md5" => some md5
  | "strtolower" => some lowercase
  | "extractcurrency" => some currency
  | "extractdenomination" => some denomination
  | _ => none

/-- The text before and after the first comma, unless the text starts with it. -/
def fields? (s : List Char) : Option (List Char × List Char) :=
  match Text.cutAt? (· == ',') s with
  | some (before, _, after) => if before.isEmpty then none else some (before, after)
  | none => none

/-- `GBP,12.50` gives `GBP`; a text without two fields is only trimmed. -/
def extractCurrency (s : String) : String :=
  let s := Text.trimChars s.toList
  String.ofList <| match fields? s with
    | some (before, _) => before
    | none => s

/-- `GBP,12.50` gives `12.50`; nothing is left if the second field is not a number. -/
def extractDenomination (s : String) : String :=
  match fields? (Text.trimChars s.toList) with
  | some (_, after) =>
    let amount := String.ofList after
    if (Decimal.number? (Text.trim amount)).isSome then amount else ""
  | none => ""

/-- The function. -/
def apply : Builtin → Transform
  | md5 => Digest.md5Text
  | lowercase => Text.lowercase
  | currency => extractCurrency
  | denomination => extractDenomination

end Builtin

/-- The providers of a mapping, in the order of registration. -/
structure TransformRegistry where
  providers : List Provider := []

namespace TransformRegistry

/-- Adds a provider after the others. -/
def register (r : TransformRegistry) (p : Provider) : TransformRegistry :=
  ⟨r.providers ++ [p]⟩

/-- The name under which a transform is looked up. -/
def key (name : String) : String :=
  Text.lowercase (Text.trim name)

/-- The transform of a name, in any case and with white space around it. -/
def resolve (r : TransformRegistry) (name : String) : Except MappingError Transform :=
  match Builtin.ofName? (key name) with
  | some b => .ok b.apply
  | none =>
    match r.providers.findSome? (·.lookup (key name)) with
    | some t => .ok t
    | none => .error (.unknownTransform name)

end TransformRegistry

end Triplify
