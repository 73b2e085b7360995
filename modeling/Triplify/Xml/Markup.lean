import Triplify.Decimal.Read
import Triplify.Xml.Name
/-!
# Markup

The pieces of an XML text: tags, text, references, character data sections, comments and processing
instructions. `Markup.next?` reads one piece. What the pieces mean, and whether they fit together, is
decided where they are put together. A `Dialect` says which characters may stand in a text and
which numbers may refer to characters.
-/

namespace Triplify.Xml

/-- What counts as a character. -/
structure Dialect where
  isChar : Char → Bool
  charOf? : Nat → Option Char

/-- A piece of an attribute value: plain text, or the character of a reference. -/
inductive Piece
  | text (s : List Char)
  | reference (c : Char)
deriving Repr, DecidableEq

/-- An attribute as it is written. -/
structure RawAttribute where
  name : TagName
  value : List Piece
deriving Repr, DecidableEq

/-- A piece of an XML text. The content of an instruction is all the text after its target. -/
inductive Markup
  | start (name : TagName) (attributes : List RawAttribute) (isEmpty : Bool)
  | close (name : TagName)
  | text (s : List Char)
  | reference (c : Char)
  | section (s : List Char)
  | comment (s : List Char)
  | instruction (target : String) (content : List Char)
deriving Repr, DecidableEq

/-- The character of one of the five named references. -/
def namedCharacter? : String → Option Char
  | "amp" => some '&'
  | "lt" => some '<'
  | "gt" => some '>'
  | "apos" => some '\''
  | "quot" => some '"'
  | _ => none

/-- Reads a reference after its ampersand. -/
def reference? (d : Dialect) (s : List Char) : Option (Char × List Char) :=
  match Text.cutAt? (· == ';') s with
  | none => none
  | some (body, _, rest) =>
    let number? : Option Nat := match body with
      | '#' :: 'x' :: digits =>
        if !digits.isEmpty && digits.all fun c => (Text.hexDigit? c).isSome then
          some (Text.hexNumber digits)
        else none
      | '#' :: digits => Decimal.natural? digits
      | _ => none
    let char? := match body with
      | '#' :: _ => number?.bind d.charOf?
      | _ => namedCharacter? (String.ofList body)
    char?.map fun c => (c, rest)

/-- Reads the pieces of an attribute value up to its quote. -/
def pieces? (d : Dialect) (quote : Char) (fuel : Nat) (s : List Char) :
    Option (List Piece × List Char) :=
  match fuel, s with
  | 0, _ => none
  | _, [] => none
  | fuel + 1, c :: rest =>
    if c == quote then some ([], rest)
    else if c == '<' then none
    else if c == '&' then
      match reference? d rest with
      | none => none
      | some (e, rest) =>
        (pieces? d quote fuel rest).map fun (ps, rest) => (.reference e :: ps, rest)
    else
      let isPlain := fun (e : Char) => e ≠ quote && e ≠ '<' && e ≠ '&'
      let text := (c :: rest).takeWhile isPlain
      if text.all d.isChar then
        (pieces? d quote fuel ((c :: rest).dropWhile isPlain)).map
          fun (ps, rest) => (.text text :: ps, rest)
      else none

/-- Reads a value in quotes. -/
def quoted? (d : Dialect) : List Char → Option (List Piece × List Char)
  | [] => none
  | q :: rest => if q == '"' || q == '\'' then pieces? d q (rest.length + 1) rest else none

/-- Reads the rest of an attribute after its name: an equals sign and a value. -/
def assigned? (d : Dialect) (s : List Char) : Option (List Piece × List Char) :=
  match skipSpace s with
  | '=' :: rest => quoted? d (skipSpace rest)
  | _ => none

/-- Reads the rest of a start tag after its name. -/
def attributes? (d : Dialect) (fuel : Nat) (s : List Char) :
    Option (List RawAttribute × Bool × List Char) :=
  match fuel with
  | 0 => none
  | fuel + 1 =>
    match skipSpace s with
    | '>' :: rest => some ([], false, rest)
    | '/' :: '>' :: rest => some ([], true, rest)
    | t =>
      -- White space has to come before an attribute.
      if !s.head?.any isSpace then none
      else match TagName.read? t with
        | none => none
        | some (name, rest) => match assigned? d rest with
          | none => none
          | some (value, rest) =>
            (attributes? d fuel rest).map fun (more, isEmpty, rest) =>
              (⟨name, value⟩ :: more, isEmpty, rest)

/-- The text up to an end mark, which has to come, and what follows the mark. -/
def upTo? (d : Dialect) (mark : String) (s : List Char) : Option (List Char × List Char) :=
  match Text.cut? mark.toList s with
  | some (body, rest) => if body.all d.isChar then some (body, rest) else none
  | none => none

/-- Reads a comment after its opening mark. Two hyphens in a row only end it. -/
def comment? (d : Dialect) (s : List Char) : Option (List Char × List Char) :=
  match upTo? d "--" s with
  | some (body, '>' :: rest) => some (body, rest)
  | _ => none

/-- Reads a processing instruction after its opening mark. -/
def instruction? (d : Dialect) (s : List Char) : Option (String × List Char × List Char) :=
  match colonName? s with
  | none => none
  | some (target, rest) => (upTo? d "?>" rest).map fun (content, rest) => (target, content, rest)

/-- Reads an end tag after its opening mark. -/
def closing? (s : List Char) : Option (TagName × List Char) :=
  match TagName.read? s with
  | none => none
  | some (name, rest) => match skipSpace rest with
    | '>' :: rest => some (name, rest)
    | _ => none

/-- Reads a run of text. It does not hold the end mark of a section. -/
def textRun? (d : Dialect) (s : List Char) : Option (List Char × List Char) :=
  let isPlain := fun (c : Char) => c ≠ '<' && c ≠ '&'
  let text := s.takeWhile isPlain
  if text.all d.isChar && !Text.occurs "]]>".toList text then
    some (text, s.dropWhile isPlain)
  else none

/-- Reads one piece at the start of a text that is not empty. -/
def Markup.next? (d : Dialect) (s : List Char) : Option (Markup × List Char) :=
  match s with
  | '<' :: '!' :: '-' :: '-' :: rest =>
    (comment? d rest).map fun (body, rest) => (.comment body, rest)
  | '<' :: '!' :: '[' :: 'C' :: 'D' :: 'A' :: 'T' :: 'A' :: '[' :: rest =>
    (upTo? d "]]>" rest).map fun (body, rest) => (.section body, rest)
  | '<' :: '?' :: rest =>
    (instruction? d rest).map fun (target, content, rest) => (.instruction target content, rest)
  | '<' :: '/' :: rest => (closing? rest).map fun (name, rest) => (.close name, rest)
  | '<' :: rest =>
    match TagName.read? rest with
    | none => none
    | some (name, rest) =>
      (attributes? d (rest.length + 1) rest).map fun (attributes, isEmpty, rest) =>
        (.start name attributes isEmpty, rest)
  | '&' :: rest => (reference? d rest).map fun (c, rest) => (.reference c, rest)
  | s => (textRun? d s).map fun (run, rest) => (.text run, rest)

/-- Reads all pieces of a text. -/
def Markup.all? (d : Dialect) (fuel : Nat) (s : List Char) : Option (List (Markup × List Char)) :=
  match fuel, s with
  | _, [] => some []
  | 0, _ => none
  | fuel + 1, s => match Markup.next? d s with
    | none => none
    | some (m, rest) => (Markup.all? d fuel rest).map ((m, s) :: ·)

end Triplify.Xml
