import Triplify.Regex.Property
import Triplify.Decimal.Read
/-!
# Reading patterns

The usual notation: alternatives, groups with or without a name, flags, repetitions that take as
much or as little as they can, classes with nested classes and set operations, and escapes.
Look-around and back-references are refused. `Pattern.parse` reads a whole text.
-/

namespace Triplify

namespace Regex

/-- The settings that a group of flags can change. -/
structure Flags where
  ignoreCase : Bool := false
  multiLine : Bool := false
  dotAll : Bool := false
  swapGreed : Bool := false
  unicode : Bool := true
  carriageReturns : Bool := false
  verbose : Bool := false

/-- What is left to read, the settings in force, and the groups opened so far. -/
structure Reader where
  rest : List Char
  flags : Flags := {}
  groups : Nat := 0
  names : List (String × Nat) := []

/-- Reading from a pattern, which may fail. -/
abbrev Reading := StateT Reader Option

namespace Reading

/-- The next character, if there is one. -/
def peek? : Reading (Option Char) := do
  return (← get).rest.head?

/-- The next character. -/
def peek : Reading Char := fun r =>
  match r.rest with
  | [] => none
  | c :: _ => some (c, r)

/-- Steps over one character. -/
def advance : Reading Unit :=
  modify fun r => { r with rest := r.rest.drop 1 }

/-- Reads one character. -/
def next : Reading Char := do
  let c ← peek
  advance
  return c

/-- Steps over a text, if it is next. -/
def accept (s : String) : Reading Bool := fun r =>
  match s.toList.isPrefixOf? r.rest with
  | some rest => some (true, { r with rest })
  | none => some (false, r)

/-- Reads one given character. -/
def expect (c : Char) : Reading Unit := do
  guard ((← next) == c)

/-- The text after white space and comments. -/
def skipComments (fuel : Nat) (s : List Char) : List Char :=
  match fuel, s with
  | 0, s => s
  | _, [] => []
  | fuel + 1, c :: rest =>
    if Text.isBlank c then skipComments fuel rest
    else if c == '#' then skipComments fuel (rest.dropWhile (· ≠ '\n'))
    else c :: rest

/-- Steps over white space and comments where they do not count. -/
def skip : Reading Unit :=
  modify fun r =>
    if r.flags.verbose then { r with rest := skipComments r.rest.length r.rest } else r

/-- Reads one character and what does not count after it. -/
def nextSkip : Reading Char := do
  let c ← next
  skip
  return c

/-- Reads the characters of a kind. -/
def takeWhile (p : Char → Bool) : Reading (List Char) := fun r =>
  some (r.rest.takeWhile p, { r with rest := r.rest.dropWhile p })

/-- A decimal number with white space around it. -/
def decimal? : Reading (Option Nat) := do
  let _ ← takeWhile Text.isBlank
  let digits ← takeWhile Char.isDigit
  let _ ← takeWhile Text.isBlank
  match Decimal.natural? digits with
  | none => return none
  | some n =>
    guard (n < Nat.pow 2 32)
    return some n

/-- The character with a number, unless it is a surrogate or out of range. -/
def charOf? (n : Nat) : Option Char :=
  if n < 0xd800 || (0xdfff < n && n < 0x110000) then some (Char.ofNat n) else none

/-- A character by its number: so many hexadecimal digits, or any number of them in braces. -/
def hexChar (width : Nat) : Reading Char := do
  if ← accept "\x7b" then
    let digits ← takeWhile (· ≠ '\x7d')
    expect '\x7d'
    let digits := digits.filter fun c => !Text.isBlank c
    guard (!digits.isEmpty && digits.all fun c => (Text.hexDigit? c).isSome)
    charOf? (Text.hexNumber digits)
  else
    let digits := (← get).rest.take width
    guard (digits.length == width && digits.all fun c => (Text.hexDigit? c).isSome)
    modify fun r => { r with rest := r.rest.drop width }
    charOf? (Text.hexNumber digits)

/-- A named class after `\p` or `\P`. -/
def property : Reading CharClass := do
  if ← accept "\x7b" then
    let name ← takeWhile (· ≠ '\x7d')
    expect '\x7d'
    match Text.cut? "!=".toList name with
    | some (kind, value) =>
      return .not (← propertyValue? (String.ofList kind) (String.ofList value))
    | none =>
      let at? := (Text.cutAt? (· == ':') name).orElse fun _ => Text.cutAt? (· == '=') name
      match at? with
      | some (kind, _, value) => propertyValue? (String.ofList kind) (String.ofList value)
      | none => property? (String.ofList name)
  else
    let c ← next
    guard (c ≠ '\\')
    property? (String.singleton c)

/-- What an escape stands for. -/
inductive Escape
  | literal (c : Char)
  | cls (c : CharClass)
  | place (a : Assertion)

/-- The class of digits, spaces or word characters, of all scripts or of ASCII only. -/
def shorthand (c : Char) : Reading CharClass := do
  let unicode := (← get).flags.unicode
  let name := c.toLower
  let cls ← if unicode then
      some (if name == 'd' then CharClass.digit else if name == 's' then .space else .word)
    else CharClass.ascii? (if name == 'd' then "digit" else if name == 's' then "space" else "word")
  if c.isUpper then
    guard unicode
    return .not cls
  else return cls

/-- A place at a word boundary, after `\b`. -/
def boundary : Reading Assertion := do
  match (← get).rest with
  | '\x7b' :: rest =>
    match rest with
    | [] => failure
    | c :: _ =>
      let isNameChar := fun (c : Char) => c.isAlpha || c == '-'
      if isNameChar c then
        advance
        let name ← takeWhile isNameChar
        expect '\x7d'
        match String.ofList name with
        | "start" => return .wordStart
        | "end" => return .wordEnd
        | "start-half" => return .wordStartHalf
        | "end-half" => return .wordEndHalf
        | _ => failure
      else return .wordBoundary
  | _ => return .wordBoundary

/-- Reads an escape, after the backslash. -/
def escape : Reading Escape := do
  let c ← next
  match c with
  | 'x' => return .literal (← hexChar 2)
  | 'u' => return .literal (← hexChar 4)
  | 'U' => return .literal (← hexChar 8)
  | 'p' => return .cls (← property)
  | 'P' => return .cls (.not (← property))
  | 'a' => return .literal '\x07'
  | 'f' => return .literal '\x0c'
  | 't' => return .literal '\t'
  | 'n' => return .literal '\n'
  | 'r' => return .literal '\r'
  | 'v' => return .literal '\x0b'
  | 'A' => return .place .startOfText
  | 'z' => return .place .endOfText
  | 'b' => return .place (← boundary)
  | 'B' => return .place .notWordBoundary
  | '<' => return .place .wordStart
  | '>' => return .place .wordEnd
  | _ =>
    if "dDsSwW".toList.contains c then return .cls (← shorthand c)
    else
      guard (c.toNat < 128 && !c.isAlphanum)
      return .literal c

/-- A member of a class: a character, which may start a range, or a class. -/
def classItem : Reading (Char ⊕ CharClass) := do
  let c ← next
  if c == '\\' then
    match ← escape with
    | .literal d => return .inl d
    | .cls d => return .inr d
    | .place _ => failure
  else return .inl c

/-- A member of a class or a range of members. -/
def classRange : Reading CharClass := do
  let first ← classItem
  skip
  let r ← get
  let after := if r.flags.verbose then skipComments r.rest.length (r.rest.drop 1) else r.rest.drop 1
  let isRange := r.rest.head? == some '-' && after.head? ≠ some ']' && after.head? ≠ some '-'
  if isRange then
    advance
    skip
    match first, ← classItem with
    | .inl a, .inl b =>
      guard (a ≤ b)
      return .range a b
    | _, _ => failure
  else match first with
    | .inl a => return .single a
    | .inr c => return c

/-- An ASCII class in brackets and colons, if one is next. -/
def asciiClass? : Reading (Option CharClass) := fun r =>
  match r.rest with
  | '[' :: ':' :: rest =>
    let (negated, rest) := match rest with
      | '^' :: rest => (true, rest)
      | _ => (false, rest)
    let name := rest.takeWhile (· ≠ ':')
    match rest.drop name.length, CharClass.ascii? (String.ofList name) with
    | ':' :: ']' :: rest, some c => some (some (if negated then .not c else c), { r with rest })
    | _, _ => some (none, r)
  | _ => some (none, r)

/-- The hyphens and the closing bracket that stand for themselves at the start of a class. -/
def classStart : Reading CharClass := do
  let hyphens ← takeWhile (· == '-')
  skip
  if hyphens.isEmpty then
    if ← accept "]" then
      skip
      return .single ']'
    else return .empty
  else return .single '-'

/-- The operators between the parts of a class, from left to right. -/
inductive SetOperator
  | intersection
  | difference
  | symmetricDifference

/-- The result of an operator, or the right side if there is no operator yet. -/
def SetOperator.apply (left? : Option (CharClass × SetOperator)) (right : CharClass) : CharClass :=
  match left? with
  | none => right
  | some (left, .intersection) => .and left right
  | some (left, .difference) => .and left (.not right)
  | some (left, .symmetricDifference) =>
    .or (.and left (.not right)) (.and right (.not left))

/-- Reads the operator that is next, if one is. -/
def setOperator? : Reading (Option SetOperator) := do
  if ← accept "&&" then return some .intersection
  else if ← accept "--" then return some .difference
  else if ← accept "~~" then return some .symmetricDifference
  else return none

mutual

/-- Reads a class after its opening bracket. -/
def bracket : Nat → Reading CharClass
  | 0 => failure
  | fuel + 1 => do
    skip
    let negated ← accept "^"
    skip
    guard (!negated || (← get).flags.unicode)
    let start ← classStart
    let c ← classParts fuel none start
    return if negated then .not c else c

/-- Reads the rest of a class: an operator with its left side may be waiting for the part that has
been read so far. -/
def classParts : Nat → Option (CharClass × SetOperator) → CharClass → Reading CharClass
  | 0, _, _ => failure
  | fuel + 1, left?, part => do
    skip
    match ← peek with
    | ']' => do
      advance
      return SetOperator.apply left? part
    | '[' =>
      match ← asciiClass? with
      | some c => classParts fuel left? (.or part c)
      | none => do
        advance
        let c ← bracket fuel
        classParts fuel left? (.or part c)
    | _ =>
      match ← setOperator? with
      | some op => classParts fuel (some (SetOperator.apply left? part, op)) .empty
      | none => do
        let c ← classRange
        classParts fuel left? (.or part c)

end

/-- Changes one setting. -/
def Flags.set? (f : Flags) (c : Char) (value : Bool) : Option Flags :=
  match c with
  | 'i' => some { f with ignoreCase := value }
  | 'm' => some { f with multiLine := value }
  | 's' => some { f with dotAll := value }
  | 'U' => some { f with swapGreed := value }
  | 'u' => some { f with unicode := value }
  | 'R' => some { f with carriageReturns := value }
  | 'x' => some { f with verbose := value }
  | _ => none

/-- The settings after a list of flags, each named once; those after a hyphen are switched off. -/
def readFlags (f : Flags) (value : Bool) (seen : List Char) : List Char → Option Flags
  | [] => if seen.head? = some '-' then none else some f
  | c :: rest =>
    if seen.contains c then none
    else if c == '-' then readFlags f false (c :: seen) rest
    else match Flags.set? f c value with
      | some f => readFlags f value (c :: seen) rest
      | none => none

/-- What opens a group. -/
inductive GroupStart
  | capture (index : Nat)
  | plain (outer : Flags)
  | settings

/-- Counts a group. -/
def openGroup : Reading Nat := do
  let index := (← get).groups + 1
  modify fun r => { r with groups := index }
  return index

/-- The characters of the name of a group. -/
def isNameChar (c : Char) : Bool :=
  c == '_' || c == '.' || c == '[' || c == ']' || Text.isAlphabetic c || Text.isDecimalDigit c ||
    Text.Category.letterNumber.contains c || Text.Category.otherNumber.contains c

/-- Reads the opening of a group after its parenthesis. -/
def groupStart : Reading GroupStart := do
  skip
  for look in ["?=", "?!", "?<=", "?<!"] do
    guard (!look.toList.isPrefixOf (← get).rest)
  if (← accept "?P<") || (← accept "?<") then
    let index ← openGroup
    let name ← takeWhile (· ≠ '>')
    expect '>'
    match name with
    | [] => failure
    | c :: rest =>
      guard ((c == '_' || Text.isAlphabetic c) && rest.all isNameChar)
      let name := String.ofList name
      guard (((← get).names.lookup name).isNone)
      modify fun r => { r with names := (name, index) :: r.names }
      return .capture index
  else if ← accept "?" then
    let outer := (← get).flags
    let flags ← takeWhile fun c => c ≠ ':' && c ≠ ')'
    let inner ← readFlags outer true [] flags
    modify fun r => { r with flags := inner }
    if (← next) == ')' then
      guard (!flags.isEmpty)
      return .settings
    else return .plain outer
  else return .capture (← openGroup)

/-- The bounds of a counted repetition, after its opening brace. -/
def bounds : Reading (Nat × Option Nat) := do
  skip
  let min? ← decimal?
  let range ← if ← accept "," then do
      skip
      if (← peek) == '\x7d' then
        let min ← min?
        pure (min, none)
      else do
        let min ← min?
        let max? ← decimal?
        let max ← max?
        guard (min ≤ max)
        pure (min, some max)
    else do
      let min ← min?
      pure (min, some min)
  expect '\x7d'
  skip
  return range

/-- How often, if a repetition is next. -/
def repetition? : Reading (Option (Nat × Option Nat)) := do
  match ← peek? with
  | some '?' => do advance; return some (0, some 1)
  | some '*' => do advance; return some (0, none)
  | some '+' => do advance; return some (1, none)
  | some '\x7b' => do advance; return some (← bounds)
  | _ => return none

/-- A character, with or without regard to case. -/
def charOf (c : CharClass) : Reading Regex := do
  return .char (← get).flags.ignoreCase c

/-- A single character, class or place; groups and repetitions are read elsewhere. -/
def primitive (fuel : Nat) : Reading Regex := do
  let c ← next
  let flags := (← get).flags
  match c with
  | '[' => charOf (← bracket fuel)
  | '.' => do
    guard flags.unicode
    return .char false <| if flags.dotAll then .any
      else if flags.carriageReturns then .not (.or (.single '\n') (.single '\r'))
      else .not (.single '\n')
  | '^' => return .place (if flags.multiLine then .startOfLine else .startOfText)
  | '$' => return .place (if flags.multiLine then .endOfLine else .endOfText)
  | '\\' =>
    match ← escape with
    | .literal d => charOf (.single d)
    | .cls d => charOf d
    | .place a => return .place a
  | c => charOf (.single c)

/-- Things in a row, given the last of them first. -/
def inARow (done : List (Option Regex)) : Regex :=
  (done.filterMap id).foldl (fun rest r => match rest with
    | .empty => r
    | rest => .seq r rest) .empty

mutual

/-- Reads alternatives up to the end of the group or text. -/
def alternatives : Nat → Reading Regex
  | 0 => failure
  | fuel + 1 => do
    let first ← concatenation fuel []
    if ← accept "|" then
      let rest ← alternatives fuel
      return .alt first rest
    else return first

/-- Reads the things in a row after those that have been read, the last of them first. A group of
settings stands there as nothing, and nothing cannot be repeated. -/
def concatenation : Nat → List (Option Regex) → Reading Regex
  | 0, _ => failure
  | fuel + 1, done => do
    skip
    match ← peek? with
    | none => return inARow done
    | some ')' => return inARow done
    | some '|' => return inARow done
    | some '(' => do
      advance
      match ← groupStart with
      | .settings => concatenation fuel (none :: done)
      | .plain outer => do
        let r ← alternatives fuel
        expect ')'
        modify fun s => { s with flags := outer }
        concatenation fuel (some r :: done)
      | .capture index => do
        let outer := (← get).flags
        let r ← alternatives fuel
        expect ')'
        modify fun s => { s with flags := outer }
        concatenation fuel (some (.group index r) :: done)
    | some _ =>
      match ← repetition? with
      | none => do
        let r ← primitive fuel
        concatenation fuel (some r :: done)
      | some (min, max) =>
        match done with
        | some r :: before => do
          let lazy ← accept "?"
          let swap := (← get).flags.swapGreed
          concatenation fuel (some (.times r min max (lazy == swap)) :: before)
        | _ => failure

end

end Reading

end Regex

/-- A pattern and the numbers of its named groups. -/
structure Pattern where
  regex : Regex
  names : List (String × Nat)

/-- Reads a pattern. -/
def Pattern.parse (s : String) : Option Pattern :=
  let text := s.toList
  match (Regex.Reading.alternatives (4 * text.length + 8)).run { rest := text } with
  | some (regex, r) => if r.rest.isEmpty then some ⟨regex, r.names⟩ else none
  | none => none

end Triplify
