import Triplify.Proofs.Batch.Tree
/-!
# Mapping files in a tree

A batch maps its files one after the other, and each output is named after its input only. `EndsAll`
follows the batch file by file.

`processPath_outputs`: the file that a report names holds the graph of its input, unless a later input
of the batch comes to the same file.
-/

namespace Triplify

/-- An input has not come to the output at a path: its report names another file, or it names none and
the input has another stem. -/
def Report.Spares (r : Report) (path stem : String) : Prop :=
  r.output ≠ some path ∧ (r.output = none → Batch.stem? r.input ≠ some stem)

namespace Batch

/-- The report on an input. -/
def reportOn (input : String) : Except MappingError Report → Report
  | .ok report => report
  | .error e => failureReport input e

/-- How mapping files one after the other ends: a report for each, and the tree after the last. -/
inductive EndsAll (b : Batch) (directory : String) :
    FileTree → List String → List Report → FileTree → Prop
  | nil (t : FileTree) : EndsAll b directory t [] [] t
  | cons {t t₁ t' : FileTree} {input : String} {rest : List String} {reports : List Report}
      {result : Except MappingError Report} : Ends b directory input t result t₁ →
      EndsAll b directory t₁ rest reports t' →
      EndsAll b directory t (input :: rest) (reportOn input result :: reports) t'

/-- Files mapped in order, with the tree after them. -/
def execFiles (b : Batch) (directory : String) (inputs : List String) (taken : Nat) (t : FileTree) :
    (List Report × Nat) × FileTree :=
  ((b.processFiles FileTree.system directory inputs).run taken).run t

theorem execFiles_cons {b : Batch} {directory input : String} {rest : List String}
    {taken taken₁ : Nat} {t t₁ : FileTree} {result : Except MappingError Report}
    (h : (b.processDocument FileTree.system directory input).exec taken t = ((result, taken₁), t₁)) :
    b.execFiles directory (input :: rest) taken t =
      let tail := b.execFiles directory rest taken₁ t₁
      ((reportOn input result :: tail.1.1, tail.1.2), tail.2) := by
  have hbind : ∀ {α β : Type} (m : StateT Nat (StateM FileTree) α)
      (k : α → StateT Nat (StateM FileTree) β), ((m >>= k).run taken).run t =
        ((k ((m.run taken).run t).1.1).run ((m.run taken).run t).1.2).run ((m.run taken).run t).2 :=
    fun _ _ => rfl
  have hhead : (((b.processDocument FileTree.system directory input).run).run taken).run t =
      ((result, taken₁), t₁) := h
  rw [execFiles, processFiles, hbind, hhead]
  cases result <;> rfl

theorem execFiles_ends (b : Batch) (directory : String) (inputs : List String) (taken : Nat)
    (t : FileTree) : EndsAll b directory t inputs (b.execFiles directory inputs taken t).1.1
      (b.execFiles directory inputs taken t).2 := by
  induction inputs generalizing taken t with
  | nil => exact .nil t
  | cons input rest ih =>
    have hhead := b.processDocument_ends directory input t taken t (.refl t) rfl
    rcases hr : (b.processDocument FileTree.system directory input).exec taken t with
      ⟨⟨result, taken₁⟩, t₁⟩
    rw [hr] at hhead
    rw [execFiles_cons hr]
    exact .cons hhead (ih taken₁ t₁)

/-! ## One file -/

section
variable {b : Batch} {directory input path stem : String} {t t' : FileTree} {g : Graph}
  {d : Diagnostics} {result : Except MappingError Report}

theorem Maps.place (h : b.Maps t directory input path g d) :
    ∃ name, t.place path = t.place directory ++ [name] := by
  obtain ⟨_, _, _, _, hstem, rfl, _⟩ := h
  exact ⟨_, place_outputPath t directory hstem g.format⟩

/-- The same holds in a tree where the inputs were the same. -/
theorem Maps.of_later (h : b.Maps t' directory input path g d) (hextends : t.Extends t')
    (htext : t'.fileText? (t.place input) = t.fileText? (t.place input)) :
    b.Maps t directory input path g d := by
  obtain ⟨text, stem, taken, hinput, hstem, hpath, hmap⟩ := h
  rw [hextends.place, htext] at hinput
  have hbase : ∀ output, b.base t' output = b.base t output := by
    intro output
    rw [base, base, hextends.workingDirectory]
  rw [hbase] at hmap
  exact ⟨text, stem, taken, hinput, hstem, hpath, hmap⟩

theorem Ends.kept (h : Ends b directory input t result t') : t.Extends t' := by
  cases h with
  | unwritten _ hextends _ => exact hextends
  | broken _ _ hputs => exact hputs.kept
  | written _ _ hputs => exact hputs.kept

theorem Ends.input_eq (h : Ends b directory input t result t') :
    (reportOn input result).input = input := by
  cases h <;> rfl

/-- A file is written under the name of the input, if any is, and no report names another one. -/
theorem Ends.writes (h : Ends b directory input t result t') :
    (t'.files = t.files ∧ (reportOn input result).output = none) ∨
      ∃ path g d, b.Maps t directory input path g d ∧ Puts t path g.written.text t' ∧
        ((reportOn input result).output = none ∨ (reportOn input result).output = some path) := by
  cases h with
  | unwritten _ _ hfiles => exact .inl ⟨hfiles, rfl⟩
  | broken hmaps _ hputs => exact .inr ⟨_, _, _, hmaps, hputs, .inl rfl⟩
  | written hmaps _ hputs => exact .inr ⟨_, _, _, hmaps, hputs, .inr rfl⟩

/-- Files outside of the output directory stay as they are. -/
theorem Ends.outside (h : Ends b directory input t result t') {l : Location}
    (hl : ¬ t.place directory <+: l) : t'.fileText? l = t.fileText? l := by
  rcases h.writes with ⟨hfiles, -⟩ | ⟨path, g, d, hmaps, hputs, -⟩
  · exact fileText?_of_files hfiles l
  · obtain ⟨name, hplace⟩ := hmaps.place
    rw [hputs.fileText?, if_neg]
    rintro rfl
    exact hl (hplace ▸ List.prefix_append ..)

/-- An output stays as it is while a file is mapped that does not come to it. -/
theorem Ends.spares (h : Ends b directory input t result t') {input' : String} {f : OutputFormat}
    (hstem : stem? input' = some stem)
    (hspares : (reportOn input result).Spares (outputPath directory stem f) stem) :
    t'.fileText? (t.place (outputPath directory stem f)) =
      t.fileText? (t.place (outputPath directory stem f)) := by
  obtain ⟨hnot, hother⟩ := hspares
  rcases h.writes with ⟨hfiles, -⟩ | ⟨path, g, d, hmaps, hputs, houtput⟩
  · exact fileText?_of_files hfiles _
  · obtain ⟨text, stem', taken, -, hstem', rfl, -⟩ := hmaps
    rw [hputs.fileText?, if_neg]
    -- At one place they would have one stem and one extension, so one path.
    intro hplace
    obtain ⟨rfl, hextension⟩ := output_inj hstem hstem' hplace
    rw [h.input_eq] at hother
    rcases houtput with hnone | hsome
    · exact hother hnone hstem'
    · exact hnot (hsome.trans (congrArg some ((outputPath_inj hstem' hstem).2
        ⟨rfl, hextension.symm⟩)))

end

/-! ## A batch -/

namespace EndsAll

variable {b : Batch} {directory : String} {t t' : FileTree} {inputs : List String}
  {reports : List Report}

theorem kept (h : EndsAll b directory t inputs reports t') : t.Extends t' := by
  induction h with
  | nil t => exact .refl t
  | cons hhead _ ih => exact hhead.kept.trans ih

/-- There is one report for each input, in order. -/
theorem inputs_eq (h : EndsAll b directory t inputs reports t') :
    reports.map (·.input) = inputs := by
  induction h with
  | nil t => rfl
  | cons hhead _ ih => rw [List.map_cons, hhead.input_eq, ih]

theorem outside (h : EndsAll b directory t inputs reports t') {l : Location}
    (hl : ¬ t.place directory <+: l) : t'.fileText? l = t.fileText? l := by
  induction h with
  | nil t => rfl
  | cons hhead _ ih =>
    rw [ih (hhead.kept.place directory ▸ hl), hhead.outside hl]

theorem spares (h : EndsAll b directory t inputs reports t') {input stem : String}
    {f : OutputFormat} (hstem : stem? input = some stem)
    (hspares : ∀ r ∈ reports, r.Spares (outputPath directory stem f) stem) :
    t'.fileText? (t.place (outputPath directory stem f)) =
      t.fileText? (t.place (outputPath directory stem f)) := by
  induction h with
  | nil t => rfl
  | cons hhead _ ih =>
    have htail := ih fun r hr => hspares r (.tail _ hr)
    rw [hhead.kept.place] at htail
    rw [htail, hhead.spares hstem (hspares _ (.head _))]

/-- A report that names a file is about a document that has been mapped, and the file holds its graph,
unless a later input comes to it. -/
theorem output (h : EndsAll b directory t inputs reports t')
    (hapart : ∀ r ∈ reports, ¬ t.place directory <+: t.place r.input) {i : Nat} {r : Report}
    {path : String} (hr : reports[i]? = some r) (hpath : r.output = some path) :
    ∃ stem g d, stem? r.input = some stem ∧ b.Maps t directory r.input path g d ∧
      g.written.error = none ∧ r.outcome = d.outcome ∧
      ((∀ later ∈ reports.drop (i + 1), later.Spares path stem) →
        t'.textAt? path = some g.written.text) := by
  induction h generalizing i with
  | nil t => cases hr
  | @cons t t₁ t' input rest reports result hhead htail ih =>
    cases i with
    | zero =>
      cases hr
      cases hhead with
      | unwritten => cases hpath
      | broken => cases hpath
      | written hmaps hwhole hputs =>
        cases hpath
        obtain ⟨text, stem, taken, hinput, hstem, rfl, hmap⟩ := hmaps
        refine ⟨stem, _, _, hstem, ⟨text, stem, taken, hinput, hstem, rfl, hmap⟩, hwhole, rfl, ?_⟩
        intro hspares
        have hkept := htail.spares hstem hspares
        rw [hputs.kept.place] at hkept
        rw [FileTree.textAt?, htail.kept.locate? hputs.located, Option.bind_some, hkept,
          hputs.fileText?, if_pos rfl]
    | succ i =>
      have hlater := hhead.kept
      have hapart' : ∀ r ∈ reports, ¬ t₁.place directory <+: t₁.place r.input := by
        intro r hr
        rw [hlater.place, hlater.place]
        exact hapart r (.tail _ hr)
      obtain ⟨stem, g, d, hstem, hmaps, hrest⟩ := ih hapart' hr
      have hin : r ∈ reports := List.mem_of_getElem? hr
      exact ⟨stem, g, d, hstem, hmaps.of_later hlater (hhead.outside (hapart r (.tail _ hin))), hrest⟩

end EndsAll

/-! ## All files at a path -/

theorem exec_isDirectory (path : String) (taken : Nat) (t : FileTree) :
    (liftM (FileTree.system.isDirectory path) : Work (StateM FileTree) Bool).exec taken t =
      ((.ok (t.directory? path).isSome, taken), t) := rfl

theorem exec_filesBelow? (path : String) (taken : Nat) (t : FileTree) :
    (liftM (FileTree.system.filesBelow? path) : Work (StateM FileTree) _).exec taken t =
      ((.ok (t.filesBelow? path), taken), t) := rfl

/-- The inputs below a directory are all of its files, in order. -/
theorem exec_inputs_of_files {path : String} {t : FileTree} {files : List (List String)}
    (h : t.filesBelow? path = some files) (taken : Nat) :
    (inputs FileTree.system path).exec taken t =
      ((.ok ((FileSystem.inOrder files).map (FileSystem.pathBelow path)), taken), t) := by
  have hthere : (t.directory? path).isSome = true := by
    obtain ⟨l, hl, -⟩ := Option.map_eq_some_iff.1 h
    rw [hl]
    rfl
  rw [inputs, Work.exec_bind_ok (exec_isDirectory path taken t), if_pos hthere,
    Work.exec_bind_ok (exec_filesBelow? path taken t), h]
  rfl

/-- Looking for inputs changes nothing. -/
theorem exec_inputs (path : String) (taken : Nat) (t : FileTree) :
    ∃ found, (inputs FileTree.system path).exec taken t = ((found, taken), t) := by
  have hfile : (liftM (FileTree.system.isFile path) : Work (StateM FileTree) Bool).exec
      taken t = ((.ok ((t.locate? path).any t.hasFile), taken), t) := rfl
  unfold inputs
  rw [Work.exec_bind_ok (exec_isDirectory path taken t)]
  split
  · rw [Work.exec_bind_ok (exec_filesBelow? path taken t)]
    cases t.filesBelow? path with
    | none => exact ⟨_, rfl⟩
    | some files => exact ⟨_, rfl⟩
  · rw [Work.exec_bind_ok hfile]
    split
    · exact ⟨_, rfl⟩
    · exact ⟨_, rfl⟩

theorem exec_processPath {b : Batch} {path : String} {taken : Nat} {t : FileTree}
    {reports : List Report}
    (h : ((b.processPath FileTree.system path).exec taken t).1.1 = .ok reports) :
    ∃ files, (inputs FileTree.system path).exec taken t = ((.ok files, taken), t) ∧
      reports = (b.execFiles b.outputDirectory files taken t).1.1 ∧
      ((b.processPath FileTree.system path).exec taken t).2 =
        (b.execFiles b.outputDirectory files taken t).2 := by
  obtain ⟨found, hfound⟩ := exec_inputs path taken t
  unfold processPath at h ⊢
  cases found with
  | error e =>
    rw [Work.exec_bind_error hfound] at h
    cases h
  | ok files =>
    rw [Work.exec_bind_ok hfound] at h ⊢
    exact ⟨files, hfound, (Except.ok.inj h).symm, rfl⟩

/-- A batch in a tree has one report for each input, in order. A report that names a file is about a
document that has been mapped, and the file is the one for its stem and the format of its graph. After
the batch it holds that graph, unless a later input of the same stem came to it. Files outside of the
output directory stay as they are. -/
theorem processPath_outputs (b : Batch) (path : String) (taken : Nat) (t : FileTree)
    {reports : List Report}
    (h : ((b.processPath FileTree.system path).exec taken t).1.1 = .ok reports)
    (hapart : ∀ r ∈ reports, ¬ t.place b.outputDirectory <+: t.place r.input) :
    let after := ((b.processPath FileTree.system path).exec taken t).2
    ((inputs FileTree.system path).exec taken t).1.1 = .ok (reports.map (·.input)) ∧
      (∀ i r output, reports[i]? = some r → r.output = some output →
        ∃ stem g d, stem? r.input = some stem ∧
          b.Maps t b.outputDirectory r.input output g d ∧ g.written.error = none ∧
          r.outcome = d.outcome ∧
          ((∀ later ∈ reports.drop (i + 1), later.Spares output stem) →
            after.textAt? output = some g.written.text)) ∧
      (∀ r ∈ reports, ∀ r' ∈ reports, r.output.isSome → r.output = r'.output →
        stem? r.input = stem? r'.input) ∧
      ∀ l, ¬ t.place b.outputDirectory <+: l → after.fileText? l = t.fileText? l := by
  intro after
  obtain ⟨files, hfiles, rfl, hafter⟩ := exec_processPath h
  have hends := b.execFiles_ends b.outputDirectory files taken t
  rw [← hafter] at hends
  refine ⟨?_, ?_, ?_, fun l hl => hends.outside hl⟩
  · rw [hfiles, hends.inputs_eq]
  · exact fun i r output hr houtput => hends.output hapart hr houtput
  · intro r hr r' hr' hsome hsame
    obtain ⟨i, hi⟩ := List.mem_iff_getElem?.1 hr
    obtain ⟨j, hj⟩ := List.mem_iff_getElem?.1 hr'
    obtain ⟨output, houtput⟩ := Option.isSome_iff_exists.1 hsome
    obtain ⟨_, _, _, -, ⟨_, _, _, -, hstem, hpath, -⟩, -⟩ := hends.output hapart hi houtput
    obtain ⟨_, _, _, -, ⟨_, _, _, -, hstem', hpath', -⟩, -⟩ :=
      hends.output hapart hj (hsame.symm.trans houtput)
    rw [hstem, hstem', ((outputPath_inj hstem hstem').1 (hpath.symm.trans hpath')).1]

/-! ## Two documents of one stem -/

/-- Mapping a document to a literal with its text. -/
def toLiteral : Batch where
  converter :=
    { config :=
        { root := .mk .mapping "config" [] [
            .mk .resource "resource" [] [
              .mk .triple "triple" [("predicate", "rdf:value"), ("value", "{.}")] [] "<triple/>"]
              "<resource/>"] "<config/>"
          namespaces := .standard
          warnings := [] }
      transforms := {}
      format := .nTriples
      base := some "http://example.com/" }
  outputDirectory := "out"

/-- Documents of one name in two directories. -/
def twoDocuments : FileTree where
  files := [(["in", "a", "x.xml"], "<x>one</x>"), (["in", "b", "x.xml"], "<x>two</x>")]

theorem inOrder_pair {a b : List String} (h : FileSystem.comesFirst a b) :
    FileSystem.inOrder [a, b] = [a, b] := by
  simp [FileSystem.inOrder, List.mergeSort, List.MergeSort.Internal.splitInTwo, h]

/-- A directory with two files is processed as these two files in a row. -/
theorem exec_processPath_pair (b : Batch) {path : String} {t : FileTree} {first second : List String}
    (hfiles : t.filesBelow? path = some [first, second])
    (horder : FileSystem.comesFirst first second) (taken : Nat) :
    let r := (b.processPath FileTree.system path).exec taken t
    let results := b.execFiles b.outputDirectory
      [FileSystem.pathBelow path first, FileSystem.pathBelow path second] taken t
    r.1.1 = .ok results.1.1 ∧ r.2 = results.2 := by
  have hinputs := exec_inputs_of_files hfiles taken
  rw [inOrder_pair horder] at hinputs
  rw [processPath, Work.exec_bind_ok hinputs]
  exact ⟨rfl, rfl⟩

/-- Both reports name one file. -/
def twoReports : List Report :=
  [⟨"in/a/x.xml", some "out/x.nt", .success⟩, ⟨"in/b/x.xml", some "out/x.nt", .success⟩]

/-- What comes of the two documents, one after the other. -/
def twoResults : (List Report × Nat) × FileTree :=
  toLiteral.execFiles toLiteral.outputDirectory
    [FileSystem.pathBelow "in" ["a", "x.xml"], FileSystem.pathBelow "in" ["b", "x.xml"]] 0 twoDocuments

/-- The files that are found, what comes of them, and the graph that the first one has on its own. -/
theorem twoDocuments_run :
    (twoDocuments.filesBelow? "in" = some [["a", "x.xml"], ["b", "x.xml"]] ∧
      FileSystem.comesFirst ["a", "x.xml"] ["b", "x.xml"] ∧
      ∀ r ∈ twoReports,
        ¬ twoDocuments.place toLiteral.outputDirectory <+: twoDocuments.place r.input) ∧
    twoResults.1.1 = twoReports ∧
    twoResults.2.textAt? "out/x.nt" =
      some "_:b0 <http://www.w3.org/1999/02/22-rdf-syntax-ns#value> \"two\" .\n" ∧
    (toLiteral.converter.mapDocument 0 "<x>one</x>" (some "http://example.com/")).1.toOption.map
        (fun mapped => mapped.1.written.text) =
      some "_:b0 <http://www.w3.org/1999/02/22-rdf-syntax-ns#value> \"one\" .\n" := by
  decide +kernel

theorem twoDocuments_processPath :
    let r := (toLiteral.processPath FileTree.system "in").exec 0 twoDocuments
    r.1.1 = .ok twoReports ∧ r.2 = twoResults.2 := by
  obtain ⟨⟨hfiles, horder, -⟩, hreports, -⟩ := twoDocuments_run
  have hresults : toLiteral.execFiles toLiteral.outputDirectory
      [FileSystem.pathBelow "in" ["a", "x.xml"], FileSystem.pathBelow "in" ["b", "x.xml"]] 0
        twoDocuments = twoResults := rfl
  obtain ⟨hreported, htree⟩ := exec_processPath_pair toLiteral hfiles horder 0
  rw [hresults, hreports] at hreported
  rw [hresults] at htree
  exact ⟨hreported, htree⟩

/-- The file has the graph of the second document only. -/
theorem twoDocuments_lost :
    let r := (toLiteral.processPath FileTree.system "in").exec 0 twoDocuments
    r.1.1 = .ok twoReports ∧
      r.2.textAt? "out/x.nt" =
        some "_:b0 <http://www.w3.org/1999/02/22-rdf-syntax-ns#value> \"two\" .\n" ∧
      (toLiteral.converter.mapDocument 0 "<x>one</x>" (some "http://example.com/")).1.toOption.map
          (fun mapped => mapped.1.written.text) =
        some "_:b0 <http://www.w3.org/1999/02/22-rdf-syntax-ns#value> \"one\" .\n" := by
  obtain ⟨hreports, htree⟩ := twoDocuments_processPath
  obtain ⟨-, -, hlast, hfirst⟩ := twoDocuments_run
  rw [← htree] at hlast
  exact ⟨hreports, hlast, hfirst⟩

theorem twoDocuments_outputs :
    let r := (toLiteral.processPath FileTree.system "in").exec 0 twoDocuments
    r.1.1 = .ok twoReports ∧
      ∃ g d, toLiteral.Maps twoDocuments "out" "in/b/x.xml" "out/x.nt" g d ∧
        r.2.textAt? "out/x.nt" = some g.written.text := by
  obtain ⟨hreports, -⟩ := twoDocuments_processPath
  obtain ⟨⟨-, -, hapart⟩, -⟩ := twoDocuments_run
  obtain ⟨-, hnamed, -⟩ := processPath_outputs toLiteral "in" 0 twoDocuments hreports hapart
  obtain ⟨stem, g, d, -, hmaps, -, -, hholds⟩ := hnamed 1 _ "out/x.nt" rfl rfl
  refine ⟨hreports, g, d, hmaps, hholds ?_⟩
  rintro _ ⟨⟩

end Batch

end Triplify
