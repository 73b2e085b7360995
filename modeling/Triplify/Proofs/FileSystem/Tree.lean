import Triplify.FileSystem.Tree
import Triplify.Proofs.Table
/-!
# Places in a file tree

A path leads to the same place in all trees, if it leads anywhere: only whether the directories on its
way are there depends on the tree. `place_join`: the place of a name in a directory. `Extends`: what
creating directories and writing files keep.
-/

namespace Triplify

namespace Text

theorem splitAll_ne_nil (sep : Char) (s : List Char) : splitAll sep s ≠ [] := by
  cases s with
  | nil => simp [splitAll]
  | cons c s =>
    rw [splitAll]
    split
    · simp
    · split <;> simp

theorem splitAll_append (sep : Char) (s rest : List Char) :
    splitAll sep (s ++ sep :: rest) = splitAll sep s ++ splitAll sep rest := by
  induction s with
  | nil => simp [splitAll]
  | cons c s ih =>
    rw [List.cons_append, splitAll, splitAll, ih]
    split
    · rfl
    · cases hs : splitAll sep s with
      | nil => exact (splitAll_ne_nil sep s hs).elim
      | cons part parts => rfl

theorem splitAll_of_notMem {sep : Char} {s : List Char} (h : sep ∉ s) : splitAll sep s = [s] := by
  induction s with
  | nil => rfl
  | cons c s ih =>
    rw [List.mem_cons, not_or] at h
    rw [splitAll, if_neg (Ne.symm h.1), ih h.2]

end Text

namespace FileTree

/-- The location that a path leads to where all directories on its way are there. -/
def place (t : FileTree) (path : String) : Location := (parts path).foldl step (t.origin path)

/-- The text of the file at a path. -/
def textAt? (t : FileTree) (path : String) : Option String := (t.locate? path).bind t.fileText?

/-- Nothing is missing in the second tree but texts of files. -/
structure Extends (t t' : FileTree) : Prop where
  workingDirectory : t'.workingDirectory = t.workingDirectory
  hasDirectory : ∀ l, t.hasDirectory l → t'.hasDirectory l

theorem follow_eq {t : FileTree} {l x : Location} {ps : List String} (h : t.follow l ps = some x) :
    x = ps.foldl step l := by
  induction ps generalizing l with
  | nil => exact (Option.some.inj h).symm
  | cons part rest ih =>
    rw [follow] at h
    split at h
    · exact ih h
    · cases h

theorem locate?_eq {t : FileTree} {path : String} {l : Location} (h : t.locate? path = some l) :
    l = t.place path := by
  rw [locate?] at h
  split at h
  · cases h
  · exact follow_eq h

namespace Extends

variable {t t' t'' : FileTree}

theorem refl (t : FileTree) : t.Extends t := ⟨rfl, fun _ h => h⟩

theorem trans (h : t.Extends t') (h' : t'.Extends t'') : t.Extends t'' :=
  ⟨h'.workingDirectory.trans h.workingDirectory, fun l hl => h'.hasDirectory l (h.hasDirectory l hl)⟩

theorem origin (h : t.Extends t') (path : String) : t'.origin path = t.origin path := by
  rw [FileTree.origin, FileTree.origin, h.workingDirectory]

theorem place (h : t.Extends t') (path : String) : t'.place path = t.place path := by
  rw [FileTree.place, FileTree.place, h.origin]

theorem follow (h : t.Extends t') {l x : Location} {ps : List String}
    (hx : t.follow l ps = some x) : t'.follow l ps = some x := by
  induction ps generalizing l with
  | nil => exact hx
  | cons part rest ih =>
    rw [FileTree.follow] at hx ⊢
    split at hx
    · next hl =>
      rw [if_pos (h.hasDirectory l hl)]
      exact ih hx
    · cases hx

/-- Where a path leads in a tree, it leads in every tree that has more. -/
theorem locate? (h : t.Extends t') {path : String} {l : Location} (hl : t.locate? path = some l) :
    t'.locate? path = some l := by
  rw [FileTree.locate?] at hl ⊢
  split at hl
  · cases hl
  · next hne =>
    rw [if_neg hne, h.origin]
    exact h.follow hl

end Extends

/-! ## Writing files -/

theorem fileText?_setFile (t : FileTree) (l l' : Location) (text : String) :
    (t.setFile l text).fileText? l' = if l' = l then some text else t.fileText? l' := by
  rw [fileText?, setFile, List.lookup_append, lookup_filter_ne]
  by_cases hl : l' = l
  · simp [hl]
  · have hother : (l' == l) = false := by simpa using hl
    simp [hl, hother, fileText?, List.lookup_cons]

theorem extends_setFile (t : FileTree) (l : Location) (text : String) :
    t.Extends (t.setFile l text) := by
  refine ⟨rfl, fun l' h => ?_⟩
  simp only [hasDirectory, setFile, Bool.or_eq_true] at h ⊢
  refine h.imp_right fun hfile => ?_
  obtain ⟨f, hf, hbelow⟩ := List.any_eq_true.1 hfile
  refine List.any_eq_true.2 ?_
  -- The file that makes it a directory is still there, perhaps with another text.
  by_cases hl : f.1 = l
  · exact ⟨(l, text), by simp, hl ▸ hbelow⟩
  · exact ⟨f, List.mem_append_left _ (List.mem_filter.2 ⟨hf, by simpa using hl⟩), hbelow⟩

theorem extends_addDirectory (t : FileTree) (l : Location) : t.Extends (t.addDirectory l) := by
  refine ⟨rfl, fun l' h => ?_⟩
  simp only [hasDirectory, addDirectory, Bool.or_eq_true, List.any_append] at h ⊢
  exact h.imp_left fun h => h.imp_right .inl

/-- Creating directories leaves the files alone. -/
theorem withDirectories?_keeps {t t' : FileTree} {l : Location} {ps : List String}
    (h : t.withDirectories? l ps = some t') : t.Extends t' ∧ t'.files = t.files := by
  induction ps generalizing t l with
  | nil =>
    rw [withDirectories?] at h
    split at h
    · cases h
      exact ⟨.refl _, rfl⟩
    · cases h
  | cons part rest ih =>
    rw [withDirectories?] at h
    split at h
    · dsimp only at h
      split at h
      · exact ih h
      · obtain ⟨hextends, hfiles⟩ := ih h
        exact ⟨(extends_addDirectory _ _).trans hextends, hfiles⟩
    · cases h

/-- The tree with the directories of a path, if they can be created. -/
def withDirectory? (t : FileTree) (path : String) : Option FileTree :=
  if path.isEmpty then some t else t.withDirectories? (t.origin path) (parts path)

theorem withDirectory?_keeps {t t' : FileTree} {path : String} (h : t.withDirectory? path = some t') :
    t.Extends t' ∧ t'.files = t.files := by
  rw [withDirectory?] at h
  split at h
  · cases h
    exact ⟨.refl _, rfl⟩
  · exact withDirectories?_keeps h

theorem write?_eq {t t' : FileTree} {path text : String} (h : t.write? path text = some t') :
    ∃ l, t.locate? path = some l ∧ t' = t.setFile l text := by
  rw [write?] at h
  split at h
  · cases h
  · next l hl =>
    split at h
    · cases h
    · exact ⟨l, hl, (Option.some.inj h).symm⟩

theorem commit_eq (changed : FileTree → Option FileTree) (t : FileTree) :
    commit changed t = ((changed t).isSome, (changed t).getD t) := by
  rw [commit]
  cases changed t <;> rfl

/-! ## Names in a directory -/

theorem parts_slash (path : List Char) {name : String} (hslash : '/' ∉ name.toList) :
    parts (String.ofList (path ++ '/' :: name.toList)) =
      parts (String.ofList path) ++ [name] := by
  rw [parts, parts, String.toList_ofList, String.toList_ofList, Text.splitAll_append,
    Text.splitAll_of_notMem hslash, List.map_append, List.map_singleton, String.ofList_toList]

theorem step_name {name : String} (hname : name ≠ "" ∧ name ≠ "." ∧ name ≠ "..") (l : Location) :
    step l name = l ++ [name] := by
  obtain ⟨hempty, hdot, hdots⟩ := hname
  rw [step, if_neg (by simp [hempty, hdot]), if_neg hdots]

theorem step_empty (l : Location) : step l "" = l := if_pos rfl

theorem not_isAbsolute {name : String} (hslash : '/' ∉ name.toList) :
    Path.isAbsolute name = false :=
  decide_eq_false fun hhead => hslash (List.mem_of_mem_head? hhead)

section
variable {directory name : String} (hdirectory : directory ≠ "") (hslash : '/' ∉ name.toList)
include hdirectory hslash

theorem join_eq : Path.join directory name =
    if directory.toList.getLast? = some '/' then directory ++ name else directory ++ "/" ++ name := by
  rw [Path.join, if_neg (by simp [not_isAbsolute hslash, hdirectory])]

theorem origin_join (t : FileTree) : t.origin (Path.join directory name) = t.origin directory := by
  have habsolute (rest : String) : Path.isAbsolute (directory ++ rest) = Path.isAbsolute directory := by
    cases hd : directory.toList with
    | nil => exact (hdirectory (String.toList_eq_nil_iff.1 hd)).elim
    | cons c d => simp [Path.isAbsolute, hd]
  rw [join_eq hdirectory hslash, origin, origin]
  split
  · rw [habsolute]
  · rw [String.append_assoc, habsolute]

/-- A name is a part of its own. It comes in the place of the empty part that a slash at the end of the
directory makes. -/
theorem parts_join : ∃ ps, parts (Path.join directory name) = ps ++ [name] ∧
    (parts directory = ps ∨ parts directory = ps ++ [""]) := by
  rw [join_eq hdirectory hslash]
  by_cases hend : directory.toList.getLast? = some '/'
  · obtain ⟨path, hpath⟩ := List.getLast?_eq_some_iff.1 hend
    refine ⟨parts (String.ofList path), ?_, .inr ?_⟩
    · rw [if_pos hend, ← parts_slash path hslash]
      exact congrArg parts (String.toList_inj.1 (by simp [hpath]))
    · have hempty : '/' ∉ "".toList := by simp
      rw [← parts_slash path hempty]
      exact congrArg parts (String.toList_inj.1 (by simp [hpath]))
  · refine ⟨parts directory, ?_, .inl rfl⟩
    rw [if_neg hend, ← String.ofList_toList (s := directory), ← parts_slash directory.toList hslash]
    exact congrArg parts (String.toList_inj.1 (by simp))

end

/-- The place of a name in a directory is right below the place of the directory. -/
theorem place_join (t : FileTree) (directory : String) {name : String} (hslash : '/' ∉ name.toList)
    (hname : name ≠ "" ∧ name ≠ "." ∧ name ≠ "..") :
    t.place (Path.join directory name) = t.place directory ++ [name] := by
  by_cases hempty : directory = ""
  · subst hempty
    have hparts : parts name = [name] := by
      rw [parts, Text.splitAll_of_notMem hslash, List.map_singleton, String.ofList_toList]
    have hjoin : Path.join "" name = name := if_pos (by simp)
    have hplace : t.place "" = t.workingDirectory := step_empty t.workingDirectory
    rw [hjoin, hplace, place, origin, not_isAbsolute hslash, hparts]
    exact step_name hname t.workingDirectory
  · obtain ⟨ps, hjoin, hparts⟩ := parts_join hempty hslash
    have hplace : t.place directory = ps.foldl step (t.origin directory) := by
      rw [place]
      rcases hparts with hparts | hparts
      · rw [hparts]
      · rw [hparts, List.foldl_append]
        exact step_empty _
    rw [hplace, place, origin_join hempty hslash, hjoin, List.foldl_append]
    exact step_name hname _

end FileTree

end Triplify
