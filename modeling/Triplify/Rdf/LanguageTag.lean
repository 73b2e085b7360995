import Triplify.Text.Search
/-!
# Language tags

Well-formed tags (BCP 47): a language with up to three extensions of its own, a script, a region,
variants, extensions and a private part, or a tag registered as a whole. Tags are compared in lower
case.
-/

namespace Triplify.LanguageTag

/-- The tags that are registered as a whole. -/
def registered : List String :=
  ["art-lojban", "cel-gaulish", "en-gb-oed", "i-ami", "i-bnn", "i-default", "i-enochian", "i-hak",
    "i-klingon", "i-lux", "i-mingo", "i-navajo", "i-pwn", "i-tao", "i-tay", "i-tsu", "no-bok",
    "no-nyn", "sgn-be-fr", "sgn-be-nl", "sgn-ch-de", "zh-guoyu", "zh-hakka", "zh-min", "zh-min-nan",
    "zh-xiang"]

/-- How far a tag has been read. In an extension or the private part, whether a subtag has to
follow. -/
inductive Place
  | language (extensions : Nat)
  | extended
  | script
  | region
  | inExtension (open_ : Bool)
  | inPrivate (open_ : Bool)
deriving Repr, DecidableEq

/-- ASCII letters only. -/
def isAlphabetic (s : List Char) : Bool := s.all Char.isAlpha

/-- ASCII digits only. -/
def isNumeric (s : List Char) : Bool := s.all Char.isDigit

/-- ASCII letters and digits only. -/
def isAlphanumeric (s : List Char) : Bool := s.all Char.isAlphanum

/-- The subtag is a variant: at least five characters, or four after a digit at the start. -/
def isVariant (s : List Char) : Bool :=
  isAlphanumeric s &&
    ((5 ≤ s.length && s.head?.any Char.isAlpha) || (4 ≤ s.length && s.head?.any Char.isDigit))

/-- The subtag is a region. -/
def isRegion (s : List Char) : Bool :=
  (s.length == 2 && isAlphabetic s) || (s.length == 3 && isNumeric s)

/-- The subtag is a script. -/
def isScript (s : List Char) : Bool := s.length == 4 && isAlphabetic s

/-- Reads a subtag after the language. -/
def Place.next? (p : Place) (s : List Char) : Option Place :=
  if s.isEmpty || 8 < s.length || !isAlphanumeric s then none
  else
    match p with
    | inPrivate _ => some (inPrivate false)
    | inExtension true =>
      if s.length == 1 then none else some (inExtension false)
    | _ =>
      if s = ['x'] then some (inPrivate true)
      else if s.length == 1 then some (inExtension true)
      else match p with
        | inExtension _ => some (inExtension false)
        | language n =>
          if s.length == 3 && isAlphabetic s then
            if n < 3 then some (language (n + 1)) else none
          else if isScript s then some script
          else if isRegion s || isVariant s then some region
          else none
        | extended =>
          if isScript s then some script else if isRegion s || isVariant s then some region else none
        | script => if isRegion s || isVariant s then some region else none
        | region => if isVariant s then some region else none
        | inPrivate _ => some (inPrivate false)

/-- Nothing has to follow. -/
def Place.isFinal : Place → Bool
  | inExtension open_ => !open_
  | inPrivate open_ => !open_
  | _ => true

/-- The subtags make up a tag that starts with a language. -/
def isTag (subtags : List (List Char)) : Bool :=
  match subtags with
  | [] => false
  | first :: rest =>
    2 ≤ first.length && first.length ≤ 8 && isAlphabetic first &&
      match rest.foldlM Place.next? (if first.length < 4 then .language 0 else .extended) with
      | some p => p.isFinal
      | none => false

/-- The tag in lower case, if it is well formed. -/
def ofText? (s : String) : Option String :=
  let chars := s.toList.map Char.toLower
  let tag := String.ofList chars
  let isPrivate := match chars with
    | 'x' :: '-' :: rest => !rest.isEmpty && rest.all fun c => c.isAlphanum || c == '-'
    | _ => false
  if registered.contains tag || isPrivate || isTag (Text.splitAll '-' chars) then some tag
  else none

end Triplify.LanguageTag
