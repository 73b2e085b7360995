import Triplify.Decimal.Read
import Triplify.XPath.Expr
/-!
# Tokens of path expressions

The words of an expression. A name or a star after an operand is an operator. The name of a
function is one that an opening parenthesis follows, that of an axis one that two colons follow.
Short forms of steps become the tokens of their long forms.
-/

namespace Triplify.XPath

/-- A word of an expression. -/
inductive Token
  | operator (op : Operator)
  | slash
  | openParen
  | closeParen
  | openBracket
  | closeBracket
  | comma
  | axis (a : Axis)
  | nodeType (t : NodeTest)
  | name (t : NodeTest)
  | function (name : Xml.TagName)
  | reference (name : Xml.TagName)
  | literal (s : String)
  | number (x : Float)

namespace Token

/-- A token after which an operand has to come, so that a name is no operator. -/
def awaitsOperand : Token → Bool
  | operator _ => true
  | slash => true
  | openParen => true
  | openBracket => true
  | comma => true
  | axis _ => true
  | _ => false

/-- The tokens that are written in one way only, the longer ones first. -/
def marks : List (String × List Token) :=
  [("<=", [.operator .lessEqual]), (">=", [.operator .greaterEqual]),
   ("!=", [.operator .notEqual]),
   ("//", [.slash, .axis .descendantOrSelf, .nodeType .any, .slash]),
   ("..", [.axis .parent, .nodeType .any]),
   ("/", [.slash]), ("(", [.openParen]), (")", [.closeParen]), ("[", [.openBracket]),
   ("]", [.closeBracket]), ("@", [.axis .attributes]), ("+", [.operator .plus]),
   ("-", [.operator .minus]), ("|", [.operator .union]), ("=", [.operator .equal]),
   ("<", [.operator .less]), (">", [.operator .greater]), (",", [.comma])]

/-- The operators that are written as names. -/
def operatorNames : List (String × Operator) :=
  [("and", .and), ("or", .or), ("mod", .mod), ("div", .div), ("*", .times)]

/-- The first of some words that the text starts with, and the rest. -/
def firstOf? {α : Type} (words : List (String × α)) (s : List Char) : Option (α × List Char) :=
  words.findSome? fun (word, a) => (word.toList.isPrefixOf? s).map fun rest => (a, rest)

/-- Reads a text in quotes. A quote cannot stand inside. -/
def literal? (s : List Char) : Option (String × List Char) :=
  match s with
  | q :: rest =>
    if q == '"' || q == '\'' then
      (Text.cutAt? (· == q) rest).map fun (body, _, rest) => (String.ofList body, rest)
    else none
  | [] => none

/-- Reads digits with an optional point. -/
def number? (s : List Char) : Option (Float × List Char) :=
  let whole := s.takeWhile Char.isDigit
  let rest := s.dropWhile Char.isDigit
  let (part, rest) := match rest with
    | '.' :: r => ('.' :: r.takeWhile Char.isDigit, r.dropWhile Char.isDigit)
    | r => ([], r)
  (Decimal.number? (String.ofList (whole ++ part))).map fun x => (x, rest)

/-- Reads the name of an axis and two colons. -/
def axis? (s : List Char) : Option (Axis × List Char) :=
  firstOf? (Axis.named.map fun (word, a) => (word ++ "::", a)) s

/-- Reads a test for the type of a node. -/
def nodeType? (s : List Char) : Option (NodeTest × List Char) :=
  match firstOf? [("node(", NodeTest.any), ("text(", .text), ("comment(", .comment),
      ("processing-instruction(", .instruction none)] s with
  | none => none
  | some (test, rest) =>
    match Xml.skipSpace rest, test with
    | ')' :: rest, _ => some (test, rest)
    | rest, .instruction _ =>
      match literal? rest with
      | none => none
      | some (target, rest) => match Xml.skipSpace rest with
        | ')' :: rest => some (.instruction (some target), rest)
        | _ => none
    | _, _ => none

/-- Reads a name with an optional label. A colon that no name follows is left. -/
def qualified? (s : List Char) : Option (Xml.TagName × List Char) :=
  match Xml.plainName? s with
  | none => none
  | some (first, rest) =>
    match rest with
    | ':' :: more =>
      match Xml.plainName? more with
      | some (second, rest) => some (⟨some first, second⟩, rest)
      | none => some (⟨none, first⟩, rest)
    | _ => some (⟨none, first⟩, rest)

/-- Reads a test for names. -/
def nameTest? (s : List Char) : Option (NodeTest × List Char) :=
  match s with
  | '*' :: rest => some (.everyName, rest)
  | s =>
    match Xml.plainName? s with
    | some (label, ':' :: '*' :: rest) => some (.namesIn label, rest)
    | _ => (qualified? s).map fun (n, rest) => (.name n, rest)

/-- Reads what a name can start. -/
def named? (s : List Char) : Option (Token × List Char) :=
  match axis? s with
  | some (a, rest) => some (axis a, rest)
  | none => match nodeType? s with
    | some (t, rest) => some (nodeType t, rest)
    | none => match qualified? s with
      | some (f, '(' :: rest) => some (function f, '(' :: rest)
      | _ => (nameTest? s).map fun (t, rest) => (name t, rest)

/-- Reads a variable. -/
def reference? : List Char → Option (Token × List Char)
  | '$' :: rest => (qualified? rest).map fun (v, rest) => (reference v, rest)
  | _ => none

/-- Reads the tokens at the start of a text without white space there. After an operand a name is
an operator. -/
def next? (afterOperand : Bool) (s : List Char) : Option (List Token × List Char) :=
  let operator? : Option (List Token × List Char) :=
    if afterOperand then
      (firstOf? operatorNames s).map fun (op, rest) => ([operator op], rest)
    else none
  let number? := (number? s).map fun (x, rest) => ([number x], rest)
  let itself? : Option (List Token × List Char) := match s with
    | '.' :: rest => some ([axis .self, nodeType .any], rest)
    | _ => none
  (firstOf? marks s) <|> ((literal? s).map fun (t, rest) => ([literal t], rest)) <|> number? <|>
    itself? <|> operator? <|> ((named? s).map fun (t, rest) => ([t], rest)) <|>
    ((reference? s).map fun (t, rest) => ([t], rest))

/-- Reads all tokens. Nothing but white space holds none, which is an error unless the text is
empty. -/
def all? (fuel : Nat) (afterOperand : Bool) (s : List Char) : Option (List Token) :=
  match fuel, s with
  | _, [] => some []
  | 0, _ => none
  | fuel + 1, s =>
    match next? afterOperand (Xml.skipSpace s) with
    | none => none
    | some (tokens, rest) =>
      let isOperand := match tokens.getLast? with
        | some t => !t.awaitsOperand
        | none => afterOperand
      (all? fuel isOperand (Xml.skipSpace rest)).map (tokens ++ ·)

/-- The tokens of an expression. -/
def ofText? (s : String) : Option (List Token) :=
  all? (s.toList.length + 1) false s.toList

end Token

end Triplify.XPath
