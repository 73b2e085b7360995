import Triplify.Text.CodeSet
import Triplify.Text.Category.Table
import Triplify.Text.Script.Table
/-!
# Character properties

The Unicode general categories under their short and long names, the properties Alphabetic,
Lowercase, Uppercase, Cased and Case_Ignorable, and the named scripts. Characters outside of every
table are unassigned.
-/

namespace Triplify.Text

namespace Category

/-- Upper-case letters. -/
def uppercaseLetter : CodeSet := .ofText Table.uppercaseLetter
/-- Lower-case letters. -/
def lowercaseLetter : CodeSet := .ofText Table.lowercaseLetter
/-- Title-case letters. -/
def titlecaseLetter : CodeSet := .ofText Table.titlecaseLetter
/-- Modifier letters. -/
def modifierLetter : CodeSet := .ofText Table.modifierLetter
/-- Letters without case. -/
def otherLetter : CodeSet := .ofText Table.otherLetter
/-- Nonspacing marks. -/
def nonspacingMark : CodeSet := .ofText Table.nonspacingMark
/-- Spacing marks. -/
def spacingMark : CodeSet := .ofText Table.spacingMark
/-- Enclosing marks. -/
def enclosingMark : CodeSet := .ofText Table.enclosingMark
/-- Decimal digits. -/
def decimalNumber : CodeSet := .ofText Table.decimalNumber
/-- Letters used as numbers. -/
def letterNumber : CodeSet := .ofText Table.letterNumber
/-- Other numbers. -/
def otherNumber : CodeSet := .ofText Table.otherNumber
/-- Connector punctuation. -/
def connectorPunctuation : CodeSet := .ofText Table.connectorPunctuation
/-- Dashes. -/
def dashPunctuation : CodeSet := .ofText Table.dashPunctuation
/-- Opening punctuation. -/
def openPunctuation : CodeSet := .ofText Table.openPunctuation
/-- Closing punctuation. -/
def closePunctuation : CodeSet := .ofText Table.closePunctuation
/-- Initial quotes. -/
def initialPunctuation : CodeSet := .ofText Table.initialPunctuation
/-- Final quotes. -/
def finalPunctuation : CodeSet := .ofText Table.finalPunctuation
/-- Other punctuation. -/
def otherPunctuation : CodeSet := .ofText Table.otherPunctuation
/-- Mathematical symbols. -/
def mathSymbol : CodeSet := .ofText Table.mathSymbol
/-- Currency symbols. -/
def currencySymbol : CodeSet := .ofText Table.currencySymbol
/-- Modifier symbols. -/
def modifierSymbol : CodeSet := .ofText Table.modifierSymbol
/-- Other symbols. -/
def otherSymbol : CodeSet := .ofText Table.otherSymbol
/-- Space separators. -/
def spaceSeparator : CodeSet := .ofText Table.spaceSeparator
/-- The line separator. -/
def lineSeparator : CodeSet := .ofText Table.lineSeparator
/-- The paragraph separator. -/
def paragraphSeparator : CodeSet := .ofText Table.paragraphSeparator
/-- Control characters. -/
def control : CodeSet := .ofText Table.control
/-- Format characters. -/
def format : CodeSet := .ofText Table.format
/-- Private-use characters. -/
def privateUse : CodeSet := .ofText Table.privateUse
/-- Alphabetic characters beyond letters and letter numbers. -/
def otherAlphabetic : CodeSet := .ofText Table.otherAlphabetic
/-- Lowercase characters beyond the lower-case letters. -/
def otherLowercase : CodeSet := .ofText Table.otherLowercase
/-- Uppercase characters beyond the upper-case letters. -/
def otherUppercase : CodeSet := .ofText Table.otherUppercase
/-- Case-ignorable characters beyond the categories that are case-ignorable. -/
def otherCaseIgnorable : CodeSet := .ofText Table.otherCaseIgnorable

/-- The categories with their short and long names. -/
def named : List (String × String × List CodeSet) :=
  let lu := uppercaseLetter; let ll := lowercaseLetter; let lt := titlecaseLetter
  let lm := modifierLetter; let lo := otherLetter
  let mn := nonspacingMark; let mc := spacingMark; let me := enclosingMark
  let nd := decimalNumber; let nl := letterNumber; let no := otherNumber
  let pc := connectorPunctuation; let pd := dashPunctuation; let ps := openPunctuation
  let pe := closePunctuation; let pi := initialPunctuation; let pf := finalPunctuation
  let po := otherPunctuation
  let sm := mathSymbol; let sc := currencySymbol; let sk := modifierSymbol; let so := otherSymbol
  let zs := spaceSeparator; let zl := lineSeparator; let zp := paragraphSeparator
  let cc := control; let cf := format; let co := privateUse
  [("l", "letter", [lu, ll, lt, lm, lo]), ("lc", "casedletter", [lu, ll, lt]),
   ("lu", "uppercaseletter", [lu]), ("ll", "lowercaseletter", [ll]),
   ("lt", "titlecaseletter", [lt]), ("lm", "modifierletter", [lm]), ("lo", "otherletter", [lo]),
   ("m", "mark", [mn, mc, me]), ("mn", "nonspacingmark", [mn]), ("mc", "spacingmark", [mc]),
   ("me", "enclosingmark", [me]),
   ("n", "number", [nd, nl, no]), ("nd", "decimalnumber", [nd]), ("nl", "letternumber", [nl]),
   ("no", "othernumber", [no]),
   ("p", "punctuation", [pc, pd, ps, pe, pi, pf, po]), ("pc", "connectorpunctuation", [pc]),
   ("pd", "dashpunctuation", [pd]), ("ps", "openpunctuation", [ps]),
   ("pe", "closepunctuation", [pe]), ("pi", "initialpunctuation", [pi]),
   ("pf", "finalpunctuation", [pf]), ("po", "otherpunctuation", [po]),
   ("s", "symbol", [sm, sc, sk, so]), ("sm", "mathsymbol", [sm]),
   ("sc", "currencysymbol", [sc]), ("sk", "modifiersymbol", [sk]), ("so", "othersymbol", [so]),
   ("z", "separator", [zs, zl, zp]), ("zs", "spaceseparator", [zs]),
   ("zl", "lineseparator", [zl]), ("zp", "paragraphseparator", [zp]),
   ("cc", "control", [cc]), ("cf", "format", [cf]), ("co", "privateuse", [co])]

end Category

open Category

/-- The property Alphabetic. -/
def isAlphabetic (c : Char) : Bool :=
  if c.toNat < 128 then c.isAlpha
  else [uppercaseLetter, lowercaseLetter, otherLetter, modifierLetter, titlecaseLetter,
    letterNumber, otherAlphabetic].any (·.contains c)

/-- The property Lowercase. -/
def isLowercase (c : Char) : Bool :=
  if c.toNat < 128 then c.isLower
  else lowercaseLetter.contains c || otherLowercase.contains c

/-- The property Uppercase. -/
def isUppercase (c : Char) : Bool :=
  if c.toNat < 128 then c.isUpper
  else uppercaseLetter.contains c || otherUppercase.contains c

/-- The property Cased. -/
def isCased (c : Char) : Bool :=
  isLowercase c || isUppercase c || titlecaseLetter.contains c

/-- The property Case_Ignorable. -/
def isCaseIgnorable (c : Char) : Bool :=
  [nonspacingMark, enclosingMark, format, modifierLetter, modifierSymbol,
    otherCaseIgnorable].any (·.contains c)

/-- Characters that have a category of their own. -/
def isAssigned (c : Char) : Bool :=
  named.any fun (_, _, sets) => sets.any (·.contains c)

/-- Characters that can be shown and stand apart: no controls, marks or blanks but the space. -/
def isVisible (c : Char) : Bool :=
  if c.toNat < 128 then 32 ≤ c.toNat && c.toNat < 127
  else isAssigned c && !([control, format, privateUse, lineSeparator, paragraphSeparator,
    spaceSeparator, nonspacingMark, enclosingMark].any (·.contains c))

/-- Decimal digits of any script. -/
def isDecimalDigit (c : Char) : Bool :=
  if c.toNat < 128 then c.isDigit else decimalNumber.contains c

/-- Marks of any kind. -/
def isMark (c : Char) : Bool :=
  nonspacingMark.contains c || spacingMark.contains c || enclosingMark.contains c

/-- Characters of words: alphabetic characters, marks, decimal digits, connectors and the two
joiners. -/
def isWordChar (c : Char) : Bool :=
  if c.toNat < 128 then c.isAlphanum || c == '_'
  else isAlphabetic c || isMark c || decimalNumber.contains c || connectorPunctuation.contains c ||
    c.toNat == 0x200c || c.toNat == 0x200d

end Triplify.Text
