import Triplify.Path
/-!
# File systems

What the library asks of a place for files, in any monad, and the order in which the files of a
directory are taken: the files of a directory itself by name, then those of each directory in it.
-/

namespace Triplify

/-- Operations on files. A path may be absolute or start at the working directory; those that read
have no answer, and those that write say no, where the place does not allow it. -/
structure FileSystem (m : Type → Type) where
  workingDirectory : m String
  isFile : String → m Bool
  isDirectory : String → m Bool
  read? : String → m (Option String)
  write : String → String → m Bool
  createDirectories : String → m Bool
  /-- The files of a directory, at any depth, each as the names that lead to it. -/
  filesBelow? : String → m (Option (List (List String)))
  /-- The names in a directory. -/
  names? : String → m (Option (List String))

namespace FileSystem

/-- There is something at the path. -/
def hasPath {m : Type → Type} [Monad m] (fs : FileSystem m) (path : String) : m Bool := do
  if ← fs.isFile path then return true
  fs.isDirectory path

/-- The first of two files below a directory comes before the second, or is the same. -/
def comesFirst : List String → List String → Bool
  | [], _ => true
  | _, [] => false
  | [a], [b] => !decide (b < a)
  | [_], _ => true
  | _, [_] => false
  | a :: as, b :: bs => if a = b then comesFirst as bs else !decide (b < a)

/-- Files below a directory in the order in which they are taken. -/
def inOrder (files : List (List String)) : List (List String) :=
  files.mergeSort comesFirst

/-- The path of a file below a directory. -/
def pathBelow (directory : String) (names : List String) : String :=
  names.foldl Path.join directory

end FileSystem

end Triplify
