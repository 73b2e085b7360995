import Triplify.Text.Search
/-!
# Events

An XML text as a list of events, each of which keeps its text as it is written: tags with what
stands between their angle brackets, runs of text, character data sections, comments, instructions
and document types. Nothing is resolved and little is checked: every piece must come to its end, and
each end tag must have the name of the tag that it closes.
-/

namespace Triplify.Split

/-- A piece of an XML text. An empty tag has lost its slash. -/
inductive Event
  | start (tag : List Char)
  | empty (tag : List Char)
  | close (name : List Char)
  | text (s : List Char)
  | data (s : List Char)
  | comment (s : List Char)
  | instruction (s : List Char)
  | doctype (s : List Char)
deriving Repr, DecidableEq

/-- The white space of XML. -/
def isSpace (c : Char) : Bool := c == ' ' || c == '\t' || c == '\n' || c == '\r'

/-- The name that a tag begins with. -/
def tagName (tag : List Char) : List Char := tag.takeWhile (!isSpace ·)

namespace Event

/-- The text of an event. -/
def render : Event → List Char
  | start tag => '<' :: tag ++ ['>']
  | empty tag => '<' :: tag ++ ['/', '>']
  | close name => '<' :: '/' :: name ++ ['>']
  | text s => s
  | data s => "<![CDATA[".toList ++ s ++ "]]>".toList
  | comment s => "<!--".toList ++ s ++ "-->".toList
  | instruction s => "<?".toList ++ s ++ "?>".toList
  | doctype s => "<!DOCTYPE ".toList ++ s ++ ['>']

/-- The text of some events. -/
def renderAll (es : List Event) : List Char := es.flatMap render

/-- Drops white space at the end, unless there is nothing else. -/
def closingName (s : List Char) : List Char :=
  if s.all isSpace then s else (s.reverse.dropWhile isSpace).reverse

/-- The text of a tag up to the bracket that ends it, which does not stand in quotes, and what
follows. The first argument is the quote that is open. -/
def tagBody? (quote : Option Char) : List Char → Option (List Char × List Char)
  | [] => none
  | c :: rest =>
    let more (q : Option Char) : Option (List Char × List Char) :=
      (tagBody? q rest).map fun (body, rest) => (c :: body, rest)
    match quote with
    | some q => more (if c == q then none else quote)
    | none =>
      if c == '>' then some ([], rest)
      else more (if c == '\'' || c == '"' then some c else none)

/-- The text of a document type up to the bracket that ends it, which is not one of a pair inside,
and what follows. The first argument is the number of open pairs. -/
def doctypeBody? (pairs : Nat) : List Char → Option (List Char × List Char)
  | [] => none
  | c :: rest =>
    let more (pairs : Nat) : Option (List Char × List Char) :=
      (doctypeBody? pairs rest).map fun (body, rest) => (c :: body, rest)
    match c, pairs with
    | '<', pairs => more (pairs + 1)
    | '>', 0 => some ([], rest)
    | '>', pairs + 1 => more pairs
    | _, pairs => more pairs

/-- The word that opens a document type, in any case. -/
def isDoctypeWord (s : List Char) : Bool :=
  s.map Char.toUpper == "DOCTYPE".toList

/-- Reads a document type after its exclamation mark. It must say something. -/
def doctype? (s : List Char) : Option (Event × List Char) :=
  match doctypeBody? 0 s with
  | none => none
  | some (body, rest) =>
    let said := (body.drop 7).dropWhile isSpace
    if isDoctypeWord (body.take 7) && !said.isEmpty then some (.doctype said, rest) else none

/-- Reads a start tag or an empty tag after its bracket. -/
def tag? (s : List Char) : Option (Event × List Char) :=
  (tagBody? none s).map fun (body, rest) =>
    match body.getLast? with
    | some '/' => (.empty body.dropLast, rest)
    | _ => (.start body, rest)

/-- Reads what follows an opening bracket. -/
def markup? : List Char → Option (Event × List Char)
  | [] => none
  | '!' :: '-' :: '-' :: rest =>
    (Text.cut? "-->".toList rest).map fun (body, rest) => (.comment body, rest)
  | '!' :: '[' :: 'C' :: 'D' :: 'A' :: 'T' :: 'A' :: '[' :: rest =>
    (Text.cut? "]]>".toList rest).map fun (body, rest) => (.data body, rest)
  | '!' :: rest => doctype? rest
  | '?' :: '>' :: _ => none
  | '?' :: rest =>
    (Text.cut? "?>".toList rest).map fun (body, rest) => (.instruction body, rest)
  | '/' :: rest =>
    (tagBody? none rest).map fun (body, rest) => (.close (closingName body), rest)
  | s => tag? s

/-- Reads one event at the start of a text. -/
def next? : List Char → Option (Event × List Char)
  | '<' :: rest => markup? rest
  | s => some (.text (s.takeWhile (· ≠ '<')), s.dropWhile (· ≠ '<'))

/-- The names of the open elements after an event, unless the event closes an element that is not
the innermost one. -/
def openNames? (names : List (List Char)) : Event → Option (List (List Char))
  | start tag => some (tagName tag :: names)
  | close name =>
    match names with
    | innermost :: outer => if name == innermost then some outer else none
    | [] => none
  | _ => some names

end Event

/-- How reading a text ends. -/
inductive Ending
  | complete
  | malformed
deriving Repr, DecidableEq

/-- The events of a text up to the first fault. -/
structure Reading where
  events : List Event
  ending : Ending
deriving Repr, DecidableEq

namespace Reading

/-- Reads a text inside of some open elements. Each event takes at least one character. -/
def read (names : List (List Char)) : Nat → List Char → Reading
  | _, [] => ⟨[], .complete⟩
  | 0, _ => ⟨[], .malformed⟩
  | fuel + 1, s =>
    match Event.next? s with
    | none => ⟨[], .malformed⟩
    | some (e, rest) =>
      match Event.openNames? names e with
      | none => ⟨[], .malformed⟩
      | some names =>
        let r := read names fuel rest
        ⟨e :: r.events, r.ending⟩

/-- Reads a text. A byte order mark at the start does not count. -/
def ofText (s : List Char) : Reading :=
  let s := match s with
    | '\uFEFF' :: rest => rest
    | _ => s
  read [] s.length s

end Reading

end Triplify.Split
