import Triplify.Regex.Parse
import Triplify.Regex.Match
/-!
# Replacing matches

All matches of a pattern are replaced by a text that may refer to groups: `$1`, `$name`, the same
with braces, and `$$` for a dollar sign. Without braces the longest name counts. A group that did
not match, or that the pattern does not have, is empty.
-/

namespace Triplify

/-- A part of a replacement text. -/
inductive Regex.Replacement
  | literal (text : List Char)
  | group (name : List Char)
deriving Repr, DecidableEq

namespace Regex.Replacement

/-- The characters of a reference without braces. -/
def isNameChar (c : Char) : Bool := c.isAlphanum || c == '_'

/-- The reference at the start of the text after a dollar sign, and the text after it. -/
def reference? (s : List Char) : Option (List Char × List Char) :=
  match s with
  | '\x7b' :: rest =>
    match Text.cutAt? (· == '\x7d') rest with
    | some (name, _, after) => some (name, after)
    | none => none
  | s =>
    let name := s.takeWhile isNameChar
    if name.isEmpty then none else some (name, s.drop name.length)

/-- The parts of a replacement text. -/
def partsFrom (fuel : Nat) (s : List Char) : List Replacement :=
  match fuel, s with
  | 0, _ => []
  | _, [] => []
  | fuel + 1, '$' :: '$' :: rest => .literal ['$'] :: partsFrom fuel rest
  | fuel + 1, '$' :: rest => match reference? rest with
    | some (name, after) => .group name :: partsFrom fuel after
    | none => .literal ['$'] :: partsFrom fuel rest
  | fuel + 1, c :: rest => .literal [c] :: partsFrom fuel rest

/-- The parts of a replacement text. Each part takes at least one character. -/
def parts (s : String) : List Replacement :=
  partsFrom s.toList.length s.toList

end Regex.Replacement

namespace Pattern

/-- The number of a group: a decimal number, or the number of its name. -/
def groupNumber? (p : Pattern) (name : List Char) : Option Nat :=
  match Decimal.unsigned64? (String.ofList name) with
  | some n => some n
  | none => p.names.lookup (String.ofList name)

/-- The text that a part stands for at a match. -/
def expand (p : Pattern) (text : Array Char) (c : Regex.Captures) :
    Regex.Replacement → List Char
  | .literal t => t
  | .group name =>
    match (p.groupNumber? name).bind fun n => c.lookup n with
    | some (first, last) => (text.extract first last).toList
    | none => []

/-- The text with the matches replaced, from a place on. -/
def replaceFrom (p : Pattern) (parts : List Regex.Replacement) (text : Array Char) (i : Nat) :
    List (Nat × Nat × Regex.Captures) → List Char
  | [] => (text.extract i text.size).toList
  | (first, last, c) :: rest =>
    (text.extract i first).toList ++ parts.flatMap (p.expand text c) ++
      replaceFrom p parts text last rest

/-- Replaces all matches in a text. -/
def replaceAll (p : Pattern) (replacement s : String) : String :=
  let text := s.toList.toArray
  String.ofList
    (p.replaceFrom (Regex.Replacement.parts replacement) text 0 (p.regex.all text))

end Pattern

end Triplify
