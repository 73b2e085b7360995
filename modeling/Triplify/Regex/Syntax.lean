import Triplify.Text.Blank
import Triplify.Text.Casing
/-!
# Regular expressions

The abstract syntax of patterns. A class is a set of characters built from ranges and named sets;
`CharClass.matches` decides it, also when case is ignored.
-/

namespace Triplify.Regex

/-- A set of characters. -/
inductive CharClass
  | range (first last : Char)
  | digit
  | space
  | word
  | sets (sets : List Text.CodeSet)
  | property (holds : Char → Bool)
  | not (c : CharClass)
  | or (c d : CharClass)
  | and (c d : CharClass)

namespace CharClass

/-- The class without characters. -/
def empty : CharClass := sets []

/-- The class of one character. -/
def single (c : Char) : CharClass := range c c

/-- Every character. -/
def any : CharClass := not empty

/-- The only character of a list. -/
def only? : List Char → Option Char
  | [c] => some c
  | _ => none

/-- The characters that are the same if case is ignored, as far as the simple mappings go. -/
def caseVariants (c : Char) : List Char :=
  let lower := (only? (Text.lowerChar c)).getD c
  let upper := (only? (Text.upperChar c)).getD c
  let back := (only? (Text.lowerChar upper)).getD c
  [c, lower, upper, back]

/-- The character is in the class; with `fold`, another case of it is enough. -/
def «matches» (fold : Bool) (c : Char) : CharClass → Bool
  | range first last =>
    let inRange := fun (d : Char) => first ≤ d && d ≤ last
    if fold then
      (caseVariants c).any inRange ||
        (first == last && (caseVariants first).any ((caseVariants c).contains ·))
    else inRange c
  | digit => Text.isDecimalDigit c
  | space => Text.isBlank c
  | word => Text.isWordChar c
  | sets ss =>
    if fold then (caseVariants c).any fun d => ss.any (·.contains d) else ss.any (·.contains c)
  | property holds => if fold then (caseVariants c).any holds else holds c
  | not d => !d.matches fold c
  | or d e => d.matches fold c || e.matches fold c
  | and d e => d.matches fold c && e.matches fold c

end CharClass

/-- A condition on a place in the text. -/
inductive Assertion
  | startOfText
  | endOfText
  | startOfLine
  | endOfLine
  | wordBoundary
  | notWordBoundary
  | wordStart
  | wordEnd
  | wordStartHalf
  | wordEndHalf
deriving Repr, DecidableEq

end Triplify.Regex

namespace Triplify

/-- A pattern. -/
inductive Regex
  | empty
  | char (fold : Bool) (c : Regex.CharClass)
  | place (a : Regex.Assertion)
  | group (index : Nat) (r : Regex)
  | seq (r s : Regex)
  | alt (r s : Regex)
  | times (r : Regex) (min : Nat) (max : Option Nat) (greedy : Bool)

end Triplify
