import Triplify.Proofs.Batch.Document
import Triplify.Proofs.FileSystem.Tree
/-!
# Places of outputs

An output stands right below the output directory, under a name that tells the stem of its input and
the extension of its format. `outputPath_inj`: two outputs have one path exactly if they have the
same stem and the same extension.
-/

namespace Triplify

/-! ## Names without slashes -/

theorem Path.slash_notMem_fileName? {path name : String} (h : fileName? path = some name) :
    '/' ∉ name.toList := by
  obtain ⟨directory, hlast⟩ := splitLast?_of_fileName? h
  simp only [splitLast?] at hlast
  split at hlast
  · cases hlast
  · simp only [Option.some.injEq, Prod.mk.injEq] at hlast
    obtain ⟨-, rfl⟩ := hlast
    rw [String.toList_ofList, List.mem_reverse]
    intro hmem
    have hslash := List.all_eq_true.1 List.all_takeWhile _ hmem
    simp at hslash

theorem Path.splitExtension_isPrefix (name : String) :
    (splitExtension name).1.toList <+: name.toList := by
  simp only [splitExtension]
  split
  · exact List.prefix_rfl
  · rw [String.toList_ofList]
    exact List.take_prefix ..

theorem Batch.slash_notMem_stem? {input stem : String} (h : stem? input = some stem) :
    '/' ∉ stem.toList := by
  obtain ⟨name, hname, rfl⟩ := Option.map_eq_some_iff.1 h
  exact fun hmem => Path.slash_notMem_fileName? hname ((Path.splitExtension_isPrefix name).subset hmem)

theorem OutputFormat.slash_notMem_fileExtension (f : OutputFormat) :
    '/' ∉ f.fileExtension.toList := by
  cases f <;> decide

theorem OutputFormat.fileExtension_ne_empty (f : OutputFormat) : f.fileExtension.toList ≠ [] := by
  cases f <;> decide

namespace Batch

variable {input stem input' stem' : String}

/-! ## Outputs -/

theorem slash_notMem_output (h : stem? input = some stem) (f : OutputFormat) :
    '/' ∉ (stem ++ "." ++ f.fileExtension).toList := by
  have hstem := slash_notMem_stem? h
  have hextension := f.slash_notMem_fileExtension
  simp [hstem, hextension]

/-- The name of an output leads to no other directory. -/
theorem output_name (h : stem? input = some stem) (f : OutputFormat) :
    let name := stem ++ "." ++ f.fileExtension
    name ≠ "" ∧ name ≠ "." ∧ name ≠ ".." := by
  intro name
  -- It has a stem, a dot and an extension, and so is longer than those.
  have hlong : 2 < name.toList.length := by
    have hstem : stem.toList.length ≠ 0 := by simpa using stem?_ne_empty h
    have hextension : f.fileExtension.toList.length ≠ 0 := by simpa using f.fileExtension_ne_empty
    simp only [name, String.toList_append, List.length_append]
    have hdot : ".".toList.length = 1 := rfl
    omega
  refine ⟨?_, ?_, ?_⟩ <;>
  · intro hname
    rw [hname] at hlong
    revert hlong
    decide

theorem place_outputPath (t : FileTree) (directory : String) (h : stem? input = some stem)
    (f : OutputFormat) : t.place (outputPath directory stem f) =
      t.place directory ++ [stem ++ "." ++ f.fileExtension] :=
  t.place_join directory (slash_notMem_output h f) (output_name h f)

/-- Outputs stand at one place only if they have the same stem and the same extension. -/
theorem output_inj {t : FileTree} {directory : String} {f f' : OutputFormat}
    (h : stem? input = some stem) (h' : stem? input' = some stem')
    (hplace : t.place (outputPath directory stem f) = t.place (outputPath directory stem' f')) :
    stem = stem' ∧ f.fileExtension = f'.fileExtension := by
  rw [place_outputPath t directory h, place_outputPath t directory h',
    List.append_cancel_left_eq, List.singleton_inj] at hplace
  have hsplit := congrArg Path.splitExtension hplace
  rw [splitExtension_output h, splitExtension_output h'] at hsplit
  simpa using hsplit

theorem outputPath_inj {directory : String} {f f' : OutputFormat} (h : stem? input = some stem)
    (h' : stem? input' = some stem') :
    outputPath directory stem f = outputPath directory stem' f' ↔
      stem = stem' ∧ f.fileExtension = f'.fileExtension := by
  constructor
  · intro hpath
    exact output_inj (t := {}) h h' (by rw [hpath])
  · rintro ⟨rfl, hextension⟩
    rw [outputPath, outputPath, hextension]

end Batch

end Triplify
