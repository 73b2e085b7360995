import Triplify.Regex.Syntax
import Triplify.Text.Category
/-!
# Named classes

The classes that a pattern can name: Unicode properties such as `\p{Lu}`, `\p{Greek}` or
`\p{gc=Letter}`, and the bracketed names of ASCII classes such as `[:alpha:]`.
-/

namespace Triplify.Regex

namespace CharClass

/-- The characters of some ranges. -/
def ranges (rs : List (Char × Char)) : CharClass :=
  rs.foldr (fun (a, b) c => or (range a b) c) empty

/-- The ASCII class of a name in brackets and colons. -/
def ascii? : String → Option CharClass
  | "alnum" => some (ranges [('0', '9'), ('A', 'Z'), ('a', 'z')])
  | "alpha" => some (ranges [('A', 'Z'), ('a', 'z')])
  | "ascii" => some (range '\x00' '\x7f')
  | "blank" => some (ranges [('\t', '\t'), (' ', ' ')])
  | "cntrl" => some (ranges [('\x00', '\x1f'), ('\x7f', '\x7f')])
  | "digit" => some (range '0' '9')
  | "graph" => some (range '!' '~')
  | "lower" => some (range 'a' 'z')
  | "print" => some (range ' ' '~')
  | "punct" => some (ranges [('!', '/'), (':', '@'), ('[', '`'), ('\x7b', '~')])
  | "space" => some (ranges [('\t', '\r'), (' ', ' ')])
  | "upper" => some (range 'A' 'Z')
  | "word" => some (ranges [('0', '9'), ('A', 'Z'), ('a', 'z'), ('_', '_')])
  | "xdigit" => some (ranges [('0', '9'), ('A', 'F'), ('a', 'f')])
  | _ => none

end CharClass

/-- A property name without case, spaces, underscores, hyphens and a leading `is`. -/
def looseName (s : String) : String :=
  let plain := (s.toList.filter fun c =>
    c.toNat < 128 && c ≠ ' ' && c ≠ '_' && c ≠ '-').map Char.toLower
  String.ofList <| match plain with
    | 'i' :: 's' :: rest => if rest = ['c'] then plain else rest
    | _ => plain

/-- The class of a general category. -/
def category? (name : String) : Option CharClass :=
  match name with
  | "any" => some .any
  | "assigned" => some (.property Text.isAssigned)
  | "ascii" => some (.range '\x00' '\x7f')
  | "cn" => some (.property (!Text.isAssigned ·))
  | "unassigned" => some (.property (!Text.isAssigned ·))
  | "cs" => some .empty
  | "surrogate" => some .empty
  | "c" => other
  | "other" => other
  | _ =>
    let name := ([("punct", "p"), ("digit", "nd"), ("cntrl", "cc"),
      ("combiningmark", "m")].lookup name).getD name
    (Text.Category.named.find? fun (short, long, _) => name == short || name == long).map
      fun (_, _, sets) => .sets sets
where
  /-- Controls, formats, private use and what is not assigned. -/
  other : Option CharClass :=
    some (.or (.property (!Text.isAssigned ·))
      (.sets [Text.Category.control, Text.Category.format, Text.Category.privateUse]))

/-- The four-letter names of scripts. -/
def scriptCodes : List (String × String) :=
  [("arab", "arabic"), ("armn", "armenian"), ("beng", "bengali"), ("bopo", "bopomofo"),
   ("cher", "cherokee"), ("copt", "coptic"), ("qaac", "coptic"), ("cyrl", "cyrillic"),
   ("deva", "devanagari"), ("egyp", "egyptianhieroglyphs"), ("ethi", "ethiopic"),
   ("geor", "georgian"), ("goth", "gothic"), ("grek", "greek"), ("gujr", "gujarati"),
   ("guru", "gurmukhi"), ("hang", "hangul"), ("hani", "han"), ("hebr", "hebrew"),
   ("hira", "hiragana"), ("kana", "katakana"), ("khmr", "khmer"), ("knda", "kannada"),
   ("laoo", "lao"), ("latn", "latin"), ("mlym", "malayalam"), ("mong", "mongolian"),
   ("mymr", "myanmar"), ("ogam", "ogham"), ("orya", "oriya"), ("runr", "runic"),
   ("sinh", "sinhala"), ("syrc", "syriac"), ("taml", "tamil"), ("telu", "telugu"),
   ("thaa", "thaana"), ("tibt", "tibetan"), ("yiii", "yi"), ("zinh", "inherited"),
   ("qaai", "inherited"), ("zyyy", "common")]

/-- The class of a script. -/
def script? (name : String) : Option CharClass :=
  let name := (scriptCodes.lookup name).getD name
  (Text.Script.Table.all.lookup name).map fun runs => .sets [.ofText runs]

/-- The class of a property with two values. -/
def binary? (name : String) : Option CharClass :=
  match name with
  | "alphabetic" => some (.property Text.isAlphabetic)
  | "alpha" => some (.property Text.isAlphabetic)
  | "lowercase" => some (.property Text.isLowercase)
  | "lower" => some (.property Text.isLowercase)
  | "uppercase" => some (.property Text.isUppercase)
  | "upper" => some (.property Text.isUppercase)
  | "whitespace" => some .space
  | "wspace" => some .space
  | "space" => some .space
  | "cased" => some (.property Text.isCased)
  | "caseignorable" => some (.property Text.isCaseIgnorable)
  | "asciihexdigit" => CharClass.ascii? "xdigit"
  | "ahex" => CharClass.ascii? "xdigit"
  | _ => none

/-- The class of a property by its name alone. -/
def property? (name : String) : Option CharClass :=
  let name := looseName name
  -- These two letters are short for a category, and only then for a property.
  (binary? name).orElse fun _ => (category? name).orElse fun _ => script? name

/-- The class of a property by the kind of property and its value. -/
def propertyValue? (kind value : String) : Option CharClass :=
  match looseName kind with
  | "gc" => category? (looseName value)
  | "generalcategory" => category? (looseName value)
  | "sc" => script? (looseName value)
  | "script" => script? (looseName value)
  | "scx" => script? (looseName value)
  | "scriptextensions" => script? (looseName value)
  | _ => none

end Triplify.Regex
