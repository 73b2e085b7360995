import Triplify.Text.CodeSet
import Triplify.Text.Search
/-!
# Internationalized resource identifiers

The parts of an IRI or of a relative reference (RFC 3987), and the characters that each part may
hold. `Iri.isAbsolute` decides whether a text is an IRI with a scheme; `IriParts.text` puts parts
together again.
-/

namespace Triplify

/-- The parts of a reference. A part that is missing differs from one that is empty. -/
structure IriParts where
  scheme : Option (List Char)
  authority : Option (List Char)
  path : List Char
  query : Option (List Char)
  fragment : Option (List Char)
deriving Repr, DecidableEq

namespace Iri

/-- The characters of schemes after the first letter. -/
def isSchemeChar (c : Char) : Bool := c.isAlphanum || c == '+' || c == '-' || c == '.'

/-- The scheme and what follows its colon. -/
def scheme? (s : List Char) : Option (List Char × List Char) :=
  match s with
  | [] => none
  | c :: rest =>
    if !c.isAlpha then none
    else match rest.dropWhile isSchemeChar with
      | ':' :: after => some (c :: rest.takeWhile isSchemeChar, after)
      | _ => none

/-- Cuts a text at the first character of a kind, which belongs to neither side. -/
def cutOff (p : Char → Bool) (s : List Char) : List Char × Option (List Char) :=
  match Text.cutAt? p s with
  | some (before, _, after) => (before, some after)
  | none => (s, none)

/-- Splits a text into the parts of a reference. -/
def split (s : List Char) : IriParts :=
  let (scheme, s) := match scheme? s with
    | some (scheme, rest) => (some scheme, rest)
    | none => (none, s)
  let (s, fragment) := cutOff (· == '#') s
  let (s, query) := cutOff (· == '?') s
  match s with
  | '/' :: '/' :: rest =>
    ⟨scheme, some (rest.takeWhile (· ≠ '/')), rest.dropWhile (· ≠ '/'), query, fragment⟩
  | path => ⟨scheme, none, path, query, fragment⟩

/-- Code points with a run of numbers each. -/
def isWithin (n first last : Nat) : Bool := first ≤ n && n ≤ last

/-- Letters, digits and marks that need no escape anywhere, and the delimiters inside of parts. -/
def isPlain (c : Char) : Bool :=
  let n := c.toNat
  c.isAlphanum || "!$&'()*+,-.;=_~".toList.contains c || isWithin n 0xa0 0xd7ff ||
    isWithin n 0xf900 0xfdcf || isWithin n 0xfdf0 0xffef ||
    (isWithin n 0x10000 0xdffff && n % 0x10000 ≤ 0xfffd) || isWithin n 0xe1000 0xefffd

/-- Private-use characters. -/
def isPrivate (c : Char) : Bool :=
  let n := c.toNat
  isWithin n 0xe000 0xf8ff || isWithin n 0xf0000 0xffffd || isWithin n 0x100000 0x10fffd

/-- The text holds only characters of a kind and escapes of two hexadecimal digits. -/
def holdsOnly (p : Char → Bool) : List Char → Bool
  | [] => true
  | '%' :: a :: b :: rest =>
    (Text.hexDigit? a).isSome && (Text.hexDigit? b).isSome && holdsOnly p rest
  | c :: rest => c ≠ '%' && p c && holdsOnly p rest

/-- The text is a number of one byte in decimal digits, without superfluous zeros. -/
def isByte (s : List Char) : Bool :=
  match s with
  | [] => false
  | c :: rest =>
    s.all Char.isDigit && s.length ≤ 3 && (c ≠ '0' || rest.isEmpty) &&
      s.foldl (fun n d => n * 10 + (d.toNat - 48)) 0 ≤ 255

/-- The text is an address of four bytes. -/
def isAddress4 (s : List Char) : Bool :=
  let bytes := Text.splitAll '.' s
  bytes.length == 4 && bytes.all isByte

/-- The number of groups of four digits that the groups between colons stand for, if all are
groups. The last may be an address of four bytes, which stands for two. -/
def groupCount? (mayEndIn4 : Bool) (s : List Char) : Option Nat :=
  if s.isEmpty then some 0
  else
    let groups := Text.splitAll ':' s
    let isGroup := fun (g : List Char) =>
      !g.isEmpty && g.length ≤ 4 && g.all fun c => (Text.hexDigit? c).isSome
    if groups.all isGroup then some groups.length
    else if mayEndIn4 && groups.dropLast.all isGroup && isAddress4 (groups.getLast?.getD []) then
      some (groups.length + 1)
    else none

/-- The text is an address of eight groups, some of which may be left out once. -/
def isAddress6 (s : List Char) : Bool :=
  match Text.cut? "::".toList s with
  | none => groupCount? true s == some 8
  | some (before, after) =>
    match groupCount? false before, groupCount? true after with
    | some m, some n => m + n ≤ 7
    | _, _ => false

/-- The text is an address of a later version: a letter, a version, a point and the address. -/
def isFutureAddress (s : List Char) : Bool :=
  match s with
  | c :: rest =>
    (c == 'v' || c == 'V') &&
      match Text.cutAt? (· == '.') rest with
      | some (version, _, address) =>
        !version.isEmpty && version.all (fun d => (Text.hexDigit? d).isSome) &&
          !address.isEmpty && address.all fun d =>
            d.toNat < 128 && (isPlain d || d == ':')
      | none => false
  | [] => false

/-- What follows a host: nothing, or a colon and digits. -/
def isPort : List Char → Bool
  | [] => true
  | ':' :: digits => digits.all Char.isDigit
  | _ => false

/-- The text is a host with an optional port. -/
def isHost (s : List Char) : Bool :=
  match s with
  | '[' :: rest =>
    match Text.cutAt? (· == ']') rest with
    | some (address, _, port) => (isAddress6 address || isFutureAddress address) && isPort port
    | none => false
  | s =>
    holdsOnly isPlain (s.takeWhile (· ≠ ':')) && isPort (s.dropWhile (· ≠ ':'))

/-- The text is an authority: an optional user, a host and an optional port. -/
def isAuthority (s : List Char) : Bool :=
  match Text.cutAt? (fun c => c == '@' || c == '[') s with
  | some (user, '@', host) => holdsOnly (fun c => isPlain c || c == ':') user && isHost host
  | _ => isHost s

/-- The characters of paths. -/
def isPathChar (c : Char) : Bool := isPlain c || c == ':' || c == '@' || c == '/'

end Iri

namespace IriParts

/-- Each part holds only what it may hold. -/
def areValid (p : IriParts) : Bool :=
  p.authority.all Iri.isAuthority && Iri.holdsOnly Iri.isPathChar p.path &&
    p.query.all (Iri.holdsOnly fun c => Iri.isPathChar c || c == '?' || Iri.isPrivate c) &&
    p.fragment.all (Iri.holdsOnly fun c => Iri.isPathChar c || c == '?')

/-- The text of the parts. -/
def text (p : IriParts) : List Char :=
  (p.scheme.map (· ++ [':'])).getD [] ++ (p.authority.map ('/' :: '/' :: ·)).getD [] ++ p.path ++
    (p.query.map ('?' :: ·)).getD [] ++ (p.fragment.map ('#' :: ·)).getD []

end IriParts

namespace Iri

/-- The text is an IRI with a scheme. -/
def isAbsolute (s : List Char) : Bool :=
  let p := split s
  p.scheme.isSome && p.areValid

/-- The text is a reference to be resolved against an IRI. The first segment of its path holds no
colon, which would end a scheme. -/
def isRelative (s : List Char) : Bool :=
  let p := split s
  p.scheme.isNone && (p.authority.isSome || !(p.path.takeWhile (· ≠ '/')).contains ':') && p.areValid

end Iri

end Triplify
