import Triplify.FileSystem
import Triplify.Text.Search
/-!
# File trees

Files and directories held in memory, as a place for files. A location is the list of names that
leads to it from the root.
-/

namespace Triplify

/-- The names that lead from the root to a file or a directory. -/
abbrev Location := List String

/-- The files with their texts, and the directories that are there without files in them. -/
structure FileTree where
  workingDirectory : Location := []
  files : List (Location × String) := []
  directories : List Location := []
deriving Repr, DecidableEq, Inhabited

namespace FileTree

/-- There is a file at the location. -/
def hasFile (t : FileTree) (l : Location) : Bool := t.files.any (·.1 = l)

/-- There is a directory at the location: the root, a listed one, or one with something in it. -/
def hasDirectory (t : FileTree) (l : Location) : Bool :=
  l.isEmpty || l.isPrefixOf t.workingDirectory || t.directories.any (l.isPrefixOf ·) ||
    t.files.any fun (f, _) => l.isPrefixOf f && l ≠ f

/-- The text of the file at a location. -/
def fileText? (t : FileTree) (l : Location) : Option String := t.files.lookup l

/-- Puts a file at a location, in place of an earlier one. -/
def setFile (t : FileTree) (l : Location) (text : String) : FileTree :=
  { t with files := (t.files.filter fun f => f.1 ≠ l) ++ [(l, text)] }

/-- Adds a directory. -/
def addDirectory (t : FileTree) (l : Location) : FileTree :=
  { t with directories := t.directories ++ [l] }

/-- The parts of a path between its slashes. -/
def parts (path : String) : List String :=
  (Text.splitAll '/' path.toList).map String.ofList

/-- Where a path starts. -/
def origin (t : FileTree) (path : String) : Location :=
  if Path.isAbsolute path then [] else t.workingDirectory

/-- The location that a part of a path leads to from a directory. -/
def step (l : Location) (part : String) : Location :=
  if part = "" || part = "." then l
  else if part = ".." then l.dropLast
  else l ++ [part]

/-- The location at the end of a path. Only directories lead anywhere. -/
def follow (t : FileTree) (l : Location) : List String → Option Location
  | [] => some l
  | part :: rest => if t.hasDirectory l then follow t (step l part) rest else none

/-- The location of a path, at which there need not be anything. -/
def locate? (t : FileTree) (path : String) : Option Location :=
  if path.isEmpty then none else t.follow (t.origin path) (parts path)

/-- Creates the directories of a path that are missing, unless a file is in the way. -/
def withDirectories? (t : FileTree) (l : Location) : List String → Option FileTree
  | [] => if t.hasDirectory l then some t else none
  | part :: rest =>
    if t.hasDirectory l then
      let next := step l part
      if t.hasDirectory next || t.hasFile next then withDirectories? t next rest
      else withDirectories? (t.addDirectory next) next rest
    else none

/-- Writes a file into a directory that is there. -/
def write? (t : FileTree) (path text : String) : Option FileTree :=
  match t.locate? path with
  | none => none
  | some l => if t.hasDirectory l then none else some (t.setFile l text)

/-- The names that lead from a location to one below it. -/
def below? (l f : Location) : Option (List String) :=
  match l.isPrefixOf? f with
  | some (name :: rest) => some (name :: rest)
  | _ => none

/-- The directory at the end of a path. -/
def directory? (t : FileTree) (path : String) : Option Location :=
  (t.locate? path).filter t.hasDirectory

/-- The files below a directory. -/
def filesBelow? (t : FileTree) (path : String) : Option (List (List String)) :=
  (t.directory? path).map fun l => t.files.filterMap fun (f, _) => below? l f

/-- The names in a directory. -/
def names? (t : FileTree) (path : String) : Option (List String) :=
  (t.directory? path).map fun l =>
    ((t.files.map Prod.fst ++ t.directories).filterMap fun f => (below? l f).bind List.head?).eraseDups

/-- Changes the tree, and says whether that was possible. -/
def commit (changed : FileTree → Option FileTree) : StateM FileTree Bool := fun t =>
  match changed t with
  | some t => (true, t)
  | none => (false, t)

/-- A tree as a place for files. -/
def system : FileSystem (StateM FileTree) where
  workingDirectory := return "/" ++ String.intercalate "/" (← get).workingDirectory
  isFile path := return ((← get).locate? path).any (← get).hasFile
  isDirectory path := return ((← get).directory? path).isSome
  read? path := return ((← get).locate? path).bind (← get).fileText?
  write path text := commit (·.write? path text)
  createDirectories path := commit fun t =>
    if path.isEmpty then some t else t.withDirectories? (t.origin path) (parts path)
  filesBelow? path := return (← get).filesBelow? path
  names? path := return (← get).names? path

/-- A tree of files and of directories that may be empty, whose paths end in a slash. -/
def ofFiles (workingDirectory : Location) (entries : List (String × String)) : FileTree :=
  entries.foldl add { workingDirectory }
where
  /-- Adds an entry to a tree. -/
  add (t : FileTree) (entry : String × String) : FileTree :=
    let names := (parts entry.1).filter (· ≠ "")
    let l := t.workingDirectory ++ names
    if (parts entry.1).getLast? = some "" then t.addDirectory l else t.setFile l entry.2

/-- The files below the working directory that are new or have another text than in a former tree,
each with its path. -/
def changes (former t : FileTree) : List (String × String) :=
  t.files.filterMap fun (l, text) =>
    if former.fileText? l = some text then none
    else (below? t.workingDirectory l).map fun names => (String.intercalate "/" names, text)

end FileTree

end Triplify
