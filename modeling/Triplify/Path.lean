import Triplify.Text.Search
/-!
# Paths

Paths of files as texts with slashes: joining them and taking them apart. Single dots and doubled
slashes inside of a path do not count.
-/

namespace Triplify.Path

/-- The path starts at the root of all files. -/
def isAbsolute (path : String) : Bool := path.toList.head? = some '/'

/-- A path seen from a directory. An absolute path is the same from everywhere. -/
def join (directory path : String) : String :=
  if isAbsolute path || directory.isEmpty then path
  else if directory.toList.getLast? = some '/' then directory ++ path
  else directory ++ "/" ++ path

/-- Drops slashes at the end, and single dots that stand alone there. -/
def trimEnd (path : List Char) : List Char :=
  go path.reverse
where
  /-- The same, on the path from its end. -/
  go : List Char → List Char
    | '/' :: rest => if rest.isEmpty then ['/'] else go rest
    | '.' :: '/' :: rest => if rest.isEmpty then ['/', '.'] else go ('/' :: rest)
    | rest => rest.reverse

/-- The last part of a path and what comes before it. The root has no last part. -/
def splitLast? (path : String) : Option (String × String) :=
  let chars := trimEnd path.toList
  let name := (chars.reverse.takeWhile (· ≠ '/')).reverse
  if name.isEmpty then none
  else some (String.ofList (trimEnd (chars.take (chars.length - name.length))), String.ofList name)

/-- The directory that a path is in; the empty path if the path has one part only. -/
def parent? (path : String) : Option String :=
  (splitLast? path).map Prod.fst

/-- The last part of a path, unless it leads to another directory. -/
def fileName? (path : String) : Option String :=
  match splitLast? path with
  | some (_, name) => if name == ".." || name == "." then none else some name
  | none => none

/-- A file name before and after its last dot. A dot at the start does not count. -/
def splitExtension (name : String) : String × Option String :=
  let chars := name.toList
  let extension := (chars.reverse.takeWhile (· ≠ '.')).reverse
  let stem := chars.take (chars.length - extension.length - 1)
  if extension.length == chars.length || stem.isEmpty then (name, none)
  else (String.ofList stem, some (String.ofList extension))

/-- The names along a path. -/
def names (path : String) : List String :=
  ((Text.splitAll '/' path.toList).map String.ofList).filter fun part => part ≠ "" && part ≠ "."

/-- The characters that a path in a URL holds as they are. -/
def isPlainInUrl (c : Char) : Bool :=
  33 ≤ c.toNat && c.toNat ≤ 126 &&
    !(['"', '<', '>', '`', '#', '?', '{', '}', '^', '/', '%', '\\'].contains c)

/-- A byte as a percent sign and two hexadecimal digits. -/
def percentByte (b : UInt8) : String :=
  let digits := (Nat.toDigits 16 b.toNat).map Char.toUpper
  "%" ++ String.ofList (List.replicate (2 - digits.length) '0' ++ digits)

/-- A name as part of a URL. -/
def percentEncoded (name : String) : String :=
  String.join (name.toList.map fun c =>
    if isPlainInUrl c then c.toString
    else String.join (c.toString.toUTF8.toList.map percentByte))

/-- The URL of a file with an absolute path. -/
def fileUrl (path : String) : String :=
  "file:///" ++ String.intercalate "/" ((names path).map percentEncoded)

end Triplify.Path
