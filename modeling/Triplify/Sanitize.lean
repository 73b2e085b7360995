/-!
# Sanitizing values

`uri` turns a value into text that can stand in an IRI. Angle brackets are dropped, other
characters that IRIs of this kind do not have become hyphens, runs of hyphens shrink to one, a
hyphen at either end is dropped, a double slash shrinks to one unless a colon comes before it, and a
slash at the end is dropped from a text with more than three. The rules are repeated until they
change nothing. `literal` drops the control characters that literals must not hold.
-/

namespace Triplify.Sanitize

/-- The characters that a sanitized value may hold. -/
def isAllowed (c : Char) : Bool :=
  c.isAlphanum || c == '_' || c == '#' || c == '-' || c == '/' || c == ':' || c == '.'

/-- Drops angle brackets and puts hyphens in place of characters that are not allowed. -/
def replaceChars (s : List Char) : List Char :=
  (s.filter fun c => c ≠ '<' && c ≠ '>').map fun c => if isAllowed c then c else '-'

/-- Shrinks runs of hyphens to one. -/
def collapseHyphens : List Char → List Char
  | '-' :: '-' :: rest => collapseHyphens ('-' :: rest)
  | c :: rest => c :: collapseHyphens rest
  | [] => []

/-- Drops one hyphen at the start. -/
def dropHyphen : List Char → List Char
  | '-' :: rest => rest
  | s => s

/-- Drops one hyphen at the end. -/
def dropLastHyphen (s : List Char) : List Char :=
  (dropHyphen s.reverse).reverse

/-- Shrinks each `//` after a character other than a colon to one slash. That character and the two
slashes are used up: they are not looked at again. -/
def collapseSlashes : List Char → List Char
  | c :: '/' :: '/' :: rest =>
    if c = ':' then c :: collapseSlashes ('/' :: '/' :: rest) else c :: '/' :: collapseSlashes rest
  | c :: rest => c :: collapseSlashes rest
  | [] => []

/-- Drops a slash at the end of a text with more than three slashes. -/
def dropLastSlash (s : List Char) : List Char :=
  if s.getLast? = some '/' && s.count '/' > 3 then s.dropLast else s

/-- All rules, once. -/
def pass (s : List Char) : List Char :=
  dropLastSlash (collapseSlashes (dropLastHyphen (dropHyphen (collapseHyphens (replaceChars s)))))

/-- Repeats the rules as long as they shorten the text. A pass that keeps the length has only put
hyphens in place of other characters, and the next pass would change nothing. -/
def settle (s : List Char) : List Char :=
  let next := pass s
  if next.length < s.length then settle next else next
termination_by s.length

/-- The text that stands for a value in an IRI. -/
def uri (value : String) : String :=
  String.ofList (settle value.toList)

/-- The control characters that literals must not hold. -/
def isStripped (c : Char) : Bool :=
  c.toNat == 0x0b || c.toNat == 0x0e || c.toNat == 0x13 || c.toNat == 0x1d

/-- A value without the control characters that literals must not hold. -/
def literal (value : String) : String :=
  String.ofList (value.toList.filter (!isStripped ·))

end Triplify.Sanitize
