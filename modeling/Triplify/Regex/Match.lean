import Triplify.Regex.Syntax
/-!
# Matching

A pattern is tried at a place of the text with a continuation for what follows it. Alternatives and
repetitions are tried in the order that the pattern prefers, and the first way through to the end
wins.
-/

namespace Triplify.Regex

/-- Where the groups matched: the start and the end of each. Group 0 is the whole match. -/
abbrev Captures := List (Nat × Nat × Nat)

/-- What follows a part of a pattern: from a place and the groups so far to the groups of the whole
match. -/
abbrev Continuation := Nat → Captures → Option Captures

/-- Tries a part of a pattern at a place. -/
abbrev Matcher := Nat → Captures → Continuation → Option Captures

/-- The condition holds at the place. -/
def Assertion.holds (text : Array Char) (i : Nat) (a : Assertion) : Bool :=
  let before := if i = 0 then none else text[i - 1]?
  let after := text[i]?
  let isWord := fun (c : Option Char) => c.any Text.isWordChar
  match a with
  | startOfText => i == 0
  | endOfText => i == text.size
  | startOfLine => i == 0 || before == some '\n'
  | endOfLine => i == text.size || after == some '\n'
  | wordBoundary => isWord before ≠ isWord after
  | notWordBoundary => isWord before == isWord after
  | wordStart => !isWord before && isWord after
  | wordEnd => isWord before && !isWord after
  | wordStartHalf => !isWord before
  | wordEndHalf => !isWord after

/-- One thing after another. -/
def Matcher.seq (m n : Matcher) : Matcher :=
  fun i c k => m i c fun i c => n i c k

/-- The same thing a number of times. -/
def Matcher.exactly (m : Matcher) : Nat → Matcher
  | 0 => fun i c k => k i c
  | n + 1 => m.seq (m.exactly n)

/-- The first of two ways, or the second if the first leads nowhere. -/
def first (greedy : Bool) (more stop : Unit → Option Captures) : Option Captures :=
  if greedy then (more ()).orElse stop else (stop ()).orElse more

/-- The same thing at most a number of times. -/
def Matcher.upTo (m : Matcher) (greedy : Bool) : Nat → Matcher
  | 0 => fun i c k => k i c
  | n + 1 => fun i c k =>
    first greedy (fun _ => m i c fun j c => m.upTo greedy n j c k) (fun _ => k i c)

/-- The same thing any number of times. A round that takes no character is the last one, so there
are at most as many rounds as characters. -/
def Matcher.many (m : Matcher) (greedy : Bool) : Nat → Matcher
  | 0 => fun i c k => k i c
  | fuel + 1 => fun i c k =>
    first greedy (fun _ => m i c fun j c => if j = i then k j c else m.many greedy fuel j c k)
      (fun _ => k i c)

/-- The matcher of a pattern. -/
def matcher (text : Array Char) : Regex → Matcher
  | .empty => fun i c k => k i c
  | .char fold cls => fun i c k => match text[i]? with
    | none => none
    | some d => if cls.matches fold d then k (i + 1) c else none
  | .place a => fun i c k => if a.holds text i then k i c else none
  | .group index r => fun i c k => matcher text r i c fun j c => k j ((index, i, j) :: c)
  | .seq r s => (matcher text r).seq (matcher text s)
  | .alt r s => fun i c k => (matcher text r i c k).orElse fun _ => matcher text s i c k
  | .times r min none greedy =>
    ((matcher text r).exactly min).seq ((matcher text r).many greedy (text.size + 1))
  | .times r min (some max) greedy =>
    ((matcher text r).exactly min).seq ((matcher text r).upTo greedy (max - min))

/-- The groups of the match that starts at the place. -/
def matchAt? (r : Regex) (text : Array Char) (i : Nat) : Option Captures :=
  matcher text r i [] fun j c => some ((0, i, j) :: c)

/-- The first match at or after the place. -/
def find? (r : Regex) (text : Array Char) (i : Nat) : Option (Nat × Nat × Captures) :=
  go (text.size + 1 - i) i
where
  /-- Tries a number of places. -/
  go : Nat → Nat → Option (Nat × Nat × Captures)
    | 0, _ => none
    | fuel + 1, i => match r.matchAt? text i with
      | some ((_, first, last) :: c) => some (first, last, (0, first, last) :: c)
      | _ => go fuel (i + 1)

/-- The matches from a place on, apart from each other. An empty match right after another match
does not count. -/
def allFrom (r : Regex) (text : Array Char) : Nat → Option Nat → Nat → List (Nat × Nat × Captures)
  | 0, _, _ => []
  | fuel + 1, previous, i => match r.find? text i with
    | none => []
    | some (first, last, c) =>
      if first = last && previous = some last then allFrom r text fuel none (last + 1)
      else (first, last, c) :: allFrom r text fuel (some last) last

/-- All matches in the text. -/
def all (r : Regex) (text : Array Char) : List (Nat × Nat × Captures) :=
  allFrom r text (2 * text.size + 2) none 0

end Triplify.Regex
