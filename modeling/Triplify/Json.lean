import Triplify.Text.CodeSet
/-!
# JSON

A reader for JSON texts (RFC 8259). Objects keep their members in order, repeated names included.
Values nest at most 128 levels deep.
-/

namespace Triplify

/-- A JSON value. The digits of numbers are not kept. -/
inductive Json
  | null
  | bool (b : Bool)
  | number
  | string (s : String)
  | array (items : List Json)
  | object (members : List (String × Json))

namespace Json

/-- White space between tokens. -/
def isSpace (c : Char) : Bool := c == ' ' || c == '\n' || c == '\t' || c == '\r'

/-- The text after white space. -/
def skip (s : List Char) : List Char := s.dropWhile isSpace

/-- Four hexadecimal digits. -/
def unit? : List Char → Option (Nat × List Char)
  | a :: b :: c :: d :: rest => do
    let digits ← [a, b, c, d].mapM Text.hexDigit?
    return (digits.foldl (fun n x => n * 16 + x) 0, rest)
  | _ => none

/-- The character of an escape `\u`, which may take two units. Half a pair is refused. -/
def unicode? (s : List Char) : Option (Char × List Char) := do
  let (high, rest) ← unit? s
  if 0xd800 ≤ high && high < 0xdc00 then
    match rest with
    | '\\' :: 'u' :: rest =>
      let (low, rest) ← unit? rest
      if 0xdc00 ≤ low && low < 0xe000 then
        return (Char.ofNat (0x10000 + (high - 0xd800) * 0x400 + (low - 0xdc00)), rest)
      else none
    | _ => none
  else if 0xdc00 ≤ high && high < 0xe000 then none
  else return (Char.ofNat high, rest)

/-- The characters of a string up to its closing quote, and the text after it. -/
def stringFrom (fuel : Nat) (acc s : List Char) : Option (String × List Char) :=
  match fuel, s with
  | 0, _ => none
  | _, [] => none
  | fuel + 1, c :: rest =>
    if c == '"' then some (String.ofList acc.reverse, rest)
    else if c == '\\' then
      match rest with
      | 'u' :: rest => match unicode? rest with
        | some (d, rest) => stringFrom fuel (d :: acc) rest
        | none => none
      | e :: rest => match escape? e with
        | some d => stringFrom fuel (d :: acc) rest
        | none => none
      | [] => none
    else if c.toNat < 0x20 then none
    else stringFrom fuel (c :: acc) rest
where
  /-- The character of a short escape. -/
  escape? : Char → Option Char
    | '"' => some '"'
    | '\\' => some '\\'
    | '/' => some '/'
    | 'b' => some '\x08'
    | 'f' => some '\x0c'
    | 'n' => some '\n'
    | 'r' => some '\r'
    | 't' => some '\t'
    | _ => none

/-- The text after a number: an integer without superfluous zeros, a fraction and an exponent. -/
def number? (s : List Char) : Option (List Char) := do
  let s := match s with
    | '-' :: r => r
    | r => r
  let s ← match s with
    | '0' :: r => some r
    | c :: r => if c.isDigit then some (r.dropWhile Char.isDigit) else none
    | [] => none
  let s ← match s with
    | '.' :: r => digits? r
    | r => some r
  match s with
  | c :: r =>
    if c == 'e' || c == 'E' then
      match r with
      | '+' :: r => digits? r
      | '-' :: r => digits? r
      | r => digits? r
    else some s
  | [] => some []
where
  /-- The text after at least one digit. -/
  digits? : List Char → Option (List Char)
    | c :: r => if c.isDigit then some (r.dropWhile Char.isDigit) else none
    | [] => none

/-- What is read inside of a value: the next value, the items of an array or the members of an
object after those that have been read. -/
inductive Goal
  | value
  | items (done : List Json)
  | members (done : List (String × Json))

/-- Reads a goal at the start of the text; `depth` more values may be nested. -/
def read (fuel depth : Nat) (goal : Goal) (s : List Char) : Option (Json × List Char) :=
  match fuel with
  | 0 => none
  | fuel + 1 =>
    match goal with
    | .value =>
      match skip s with
      | '"' :: r => (stringFrom (r.length + 1) [] r).map fun (t, rest) => (string t, rest)
      | '[' :: r =>
        if depth = 0 then none
        else match skip r with
          | ']' :: rest => some (array [], rest)
          | r => read fuel (depth - 1) (.items []) r
      | '\x7b' :: r =>
        if depth = 0 then none
        else match skip r with
          | '\x7d' :: rest => some (object [], rest)
          | r => read fuel (depth - 1) (.members []) r
      | 't' :: 'r' :: 'u' :: 'e' :: rest => some (bool true, rest)
      | 'f' :: 'a' :: 'l' :: 's' :: 'e' :: rest => some (bool false, rest)
      | 'n' :: 'u' :: 'l' :: 'l' :: rest => some (null, rest)
      | r => (number? r).map fun rest => (number, rest)
    | .items done =>
      match read fuel depth .value s with
      | none => none
      | some (v, rest) => match skip rest with
        | ',' :: rest => read fuel depth (.items (v :: done)) rest
        | ']' :: rest => some (array (v :: done).reverse, rest)
        | _ => none
    | .members done =>
      match skip s with
      | '"' :: r => match stringFrom (r.length + 1) [] r with
        | none => none
        | some (name, rest) => match skip rest with
          | ':' :: rest => match read fuel depth .value rest with
            | none => none
            | some (v, rest) => match skip rest with
              | ',' :: rest => read fuel depth (.members ((name, v) :: done)) rest
              | '\x7d' :: rest => some (object ((name, v) :: done).reverse, rest)
              | _ => none
          | _ => none
      | _ => none

/-- The value that a text writes. Each character takes at most two reading steps. -/
def ofText? (s : String) : Option Json :=
  let chars := s.toList
  match read (2 * chars.length + 2) 127 .value chars with
  | some (v, rest) => if (skip rest).isEmpty then some v else none
  | none => none

/-- The text of a string. -/
def string? : Json → Option String
  | string s => some s
  | _ => none

/-- The last member of a name. -/
def member? (members : List (String × Json)) (name : String) : Option Json :=
  members.reverse.lookup name

end Json

end Triplify
