/-!
# White space

The characters with the Unicode property White_Space, and trimming them from both ends of a text.
-/

namespace Triplify.Text

/-- The characters with the Unicode property White_Space. -/
def isBlank (c : Char) : Bool :=
  let n := c.toNat
  (9 ≤ n && n ≤ 13) || n == 32 || n == 0x85 || n == 0xa0 || n == 0x1680 ||
    (0x2000 ≤ n && n ≤ 0x200a) || n == 0x2028 || n == 0x2029 || n == 0x202f || n == 0x205f ||
    n == 0x3000

/-- Drops white space at the end. -/
def trimEndChars (s : List Char) : List Char :=
  (s.reverse.dropWhile isBlank).reverse

/-- Drops white space at both ends. -/
def trimChars (s : List Char) : List Char :=
  trimEndChars (s.dropWhile isBlank)

/-- The text without the white space at its ends. -/
def trim (s : String) : String :=
  String.ofList (trimChars s.toList)

/-- Nothing but white space. -/
def isBlankText (s : String) : Bool :=
  s.toList.all isBlank

end Triplify.Text
