import Triplify.Registry
import Triplify.Text.Search
/-!
# Templates

An attribute value is literal text with placeholders: `{path}`, `^counter_name~` and
`^uniqueidentifier_name~`. A path runs to the first closing brace and may hold calls. Any other text
between `^` and `~`, and an opener that is never closed, is literal.

`Template.parse` splits a value into segments; `answerCalls` replaces the calls of an expression by
what they are answered, and `resolveCalls` by their values in the registries.
-/

namespace Triplify

/-- A call that the registries answer. -/
inductive Call
  | counter (name : List Char)
  | identifier (name : List Char)
deriving Repr, DecidableEq

namespace Call

/-- The word in front of the name of a counter. -/
def counterWord : List Char := "counter_".toList

/-- The word in front of the name of an identifier. -/
def identifierWord : List Char := "uniqueidentifier_".toList

/-- Reads the text between `^` and `~`. -/
def parse? (body : List Char) : Option Call :=
  match counterWord.isPrefixOf? body with
  | some name => some (counter name)
  | none => (identifierWord.isPrefixOf? body).map identifier

/-- The value of a call. -/
def resolve (r : Registries) : Call → Except MappingError (List Char)
  | counter name => (r.counter (String.ofList name)).map fun v => (toString v).toList
  | identifier name => (r.identifier (String.ofList name)).map String.toList

end Call

/-- A part of a template. -/
inductive Segment
  | literal (text : List Char)
  | path (expr : List Char)
  | call (call : Call)
deriving Repr, DecidableEq

/-- A segment that is replaced by values. -/
def Segment.isPlaceholder : Segment → Bool
  | literal _ => false
  | _ => true

/-- An attribute value as literal texts and placeholders. -/
structure Template where
  segments : List Segment
deriving Repr, DecidableEq

namespace Template

/-- The characters that can open a placeholder. -/
def isOpener (c : Char) : Bool := c == '{' || c == '^'

/-- The character that closes what an opener opens. -/
def closer (opener : Char) : Char := if opener = '{' then '}' else '~'

/-- The placeholder between an opener and its closer. -/
def placeholder? (opener : Char) (body : List Char) : Option Segment :=
  if opener = '{' then some (.path body) else (Call.parse? body).map .call

/-- A literal segment, unless its text is empty. -/
def literal (text : List Char) : List Segment :=
  if text.isEmpty then [] else [.literal text]

/-- The segments of a text that follows the literal text `pending`. -/
def parseFrom (pending text : List Char) : List Segment :=
  match _h : Text.cutAt? isOpener text with
  | none => literal (pending ++ text)
  | some (before, opener, rest) =>
    match _h' : Text.cutAt? (· == closer opener) rest with
    | none => literal (pending ++ text)
    | some (body, close, after) =>
      match placeholder? opener body with
      | some segment => literal (pending ++ before) ++ segment :: parseFrom [] after
      | none => parseFrom (pending ++ before ++ opener :: body ++ [close]) after
termination_by text.length
decreasing_by
  all_goals
    have := Text.cutAt?_length _h
    have := Text.cutAt?_length _h'
    omega

/-- Splits a value into its segments. -/
def parse (text : String) : Template :=
  ⟨parseFrom [] text.toList⟩

/-- The number of placeholders. -/
def placeholderCount (t : Template) : Nat :=
  (t.segments.filter Segment.isPlaceholder).length

/-- The placeholder that spans the whole value, if there is one. -/
def sole? (t : Template) : Option Segment :=
  match t.segments with
  | [only] => if only.isPlaceholder then some only else none
  | _ => none

end Template

/-- Replaces the calls of an expression by what they are answered. The answers are not searched for
calls, and the first call without an answer decides. -/
def answerCalls {ε : Type} (answer : Call → Except ε (List Char)) (expr : List Char) :
    Except ε (List Char) :=
  match _h : Text.cutAt? (· == '^') expr with
  | none => .ok expr
  | some (before, _, rest) =>
    match _h' : Text.cutAt? (· == '~') rest with
    | none => .ok expr
    | some (body, _, after) => do
      let value ← match Call.parse? body with
        | some call => answer call
        | none => .ok ('^' :: body ++ ['~'])
      let resolved ← answerCalls answer after
      return before ++ value ++ resolved
termination_by expr.length
decreasing_by
  have := Text.cutAt?_length _h
  have := Text.cutAt?_length _h'
  omega

/-- Replaces the calls of an expression by their values. -/
def resolveCallsChars (r : Registries) (expr : List Char) : Except MappingError (List Char) :=
  answerCalls (·.resolve r) expr

/-- Replaces the calls of an expression by their values. -/
def resolveCalls (r : Registries) (expr : String) : Except MappingError String :=
  (resolveCallsChars r expr.toList).map String.ofList

/-- Drops one opening brace at the start. -/
def dropOpenBrace : List Char → List Char
  | '{' :: rest => rest
  | s => s

/-- Drops one closing brace at the end. -/
def dropCloseBrace (s : List Char) : List Char :=
  if s.getLast? = some '}' then s.dropLast else s

/-- The expression of a test: its calls are replaced by what they are answered, then a pair of braces
around it is dropped. -/
def answerMatch {ε : Type} (answer : Call → Except ε (List Char)) (raw : String) : Except ε String :=
  (answerCalls answer (Text.trimChars raw.toList)).map fun s =>
    String.ofList (dropCloseBrace (dropOpenBrace s))

/-- The expression of a test, with the values of its calls. -/
def prepareMatch (r : Registries) (raw : String) : Except MappingError String :=
  answerMatch (·.resolve r) raw

end Triplify
