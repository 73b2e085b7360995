import Triplify.Proofs.Batch.Output
/-!
# Mapping a file in a tree

Mapping a file in a tree of files ends in one of three ways. It fails before it writes, and the files
stay as they are; or it writes the whole graph of the document; or the graph cannot be written to
its end, and what there is of it stays.

`processDocument_ends`: one of these it is. `processDocument_error`: what a failure leaves.
-/

namespace Triplify.Batch

/-- The base that a document is mapped with when its output is expected at a path. -/
def base (b : Batch) (t : FileTree) (output : String) : String :=
  b.converter.base.getD
    (Path.fileUrl (Path.join ("/" ++ String.intercalate "/" t.workingDirectory) output))

/-- The text of an input gives a graph, which belongs at a path. -/
def Maps (b : Batch) (t : FileTree) (directory input path : String) (g : Graph)
    (d : Diagnostics) : Prop :=
  ∃ text stem taken, t.fileText? (t.place input) = some text ∧ stem? input = some stem ∧
    path = outputPath directory stem g.format ∧
    (b.converter.mapDocument taken text
      (some (b.base t (outputPath directory stem b.converter.format)))).1 = .ok (g, d)

/-- A text has been put at a path, and no other file has changed. -/
structure Puts (t : FileTree) (path text : String) (t' : FileTree) : Prop where
  kept : t.Extends t'
  located : t'.locate? path = some (t.place path)
  fileText? : ∀ l, t'.fileText? l = if l = t.place path then some text else t.fileText? l

/-- How mapping a file ends, and the tree after it. -/
inductive Ends (b : Batch) (directory input : String) (t : FileTree) :
    Except MappingError Report → FileTree → Prop
  | unwritten {t' : FileTree} (e : MappingError) : t.Extends t' → t'.files = t.files →
      Ends b directory input t (.error e) t'
  | broken {t' : FileTree} {path : String} {g : Graph} {d : Diagnostics} {e : MappingError} :
      b.Maps t directory input path g d → g.written.error = some e → Puts t path g.written.text t' →
      Ends b directory input t (.error e) t'
  | written {t' : FileTree} {path : String} {g : Graph} {d : Diagnostics} :
      b.Maps t directory input path g d → g.written.error = none → Puts t path g.written.text t' →
      Ends b directory input t (.ok ⟨input, some path, d.outcome⟩) t'

/-! ## The steps of mapping a file -/

section
variable {α : Type} (e : MappingError) (taken : Nat) (t : FileTree)

theorem exec_ensure_done :
    (ensure e true : Work (StateM FileTree) Unit).exec taken t = ((.ok (), taken), t) := rfl

end

theorem exec_createDirectories (directory : String) (taken : Nat) (t : FileTree) :
    (liftM (FileTree.system.createDirectories directory) : Work (StateM FileTree) Bool).exec taken t =
      ((.ok (t.withDirectory? directory).isSome, taken), (t.withDirectory? directory).getD t) := by
  have hrun : (liftM (FileTree.system.createDirectories directory) :
      Work (StateM FileTree) Bool).exec taken t =
        ((.ok (FileTree.commit (·.withDirectory? directory) t).1, taken),
          (FileTree.commit (·.withDirectory? directory) t).2) := rfl
  rw [hrun, FileTree.commit_eq]

theorem exec_baseIri (b : Batch) (output : String) (taken : Nat) (t : FileTree) :
    (b.baseIri FileTree.system output).exec taken t = ((.ok (b.base t output), taken), t) := by
  unfold baseIri base
  cases b.converter.base <;> rfl

theorem exec_writeText (path text : String) (taken : Nat) (t : FileTree) :
    (liftM (FileTree.system.write path text) : Work (StateM FileTree) Bool).exec taken t =
      ((.ok (t.write? path text).isSome, taken), (t.write? path text).getD t) := by
  have hrun : (liftM (FileTree.system.write path text) : Work (StateM FileTree) Bool).exec taken t =
      ((.ok (FileTree.commit (·.write? path text) t).1, taken),
        (FileTree.commit (·.write? path text) t).2) := rfl
  rw [hrun, FileTree.commit_eq]

/-! ## Work that spares the files -/

section
variable {α β : Type} {t : FileTree}

/-- In every tree that has come of one without a change to a file, the work changes no file, and it has
only such results. -/
def Spares (t : FileTree) (w : Work (StateM FileTree) α) (only : α → Prop) : Prop :=
  ∀ taken t', t.Extends t' → t'.files = t.files →
    t.Extends (w.exec taken t').2 ∧ (w.exec taken t').2.files = t.files ∧
      ∀ a, (w.exec taken t').1.1 = .ok a → only a

/-- In every such tree, the outcome of the work and the tree after it are such. -/
def Leads (t : FileTree) (w : Work (StateM FileTree) α)
    (such : Except MappingError α → FileTree → Prop) : Prop :=
  ∀ taken t', t.Extends t' → t'.files = t.files →
    such (w.exec taken t').1.1 (w.exec taken t').2

/-- Work after work that spares the files, which may fail. -/
theorem Leads.bind {w : Work (StateM FileTree) α} {only : α → Prop}
    {k : α → Work (StateM FileTree) β} {such : Except MappingError β → FileTree → Prop}
    (hw : Spares t w only)
    (herror : ∀ e t', t.Extends t' → t'.files = t.files → such (.error e) t')
    (hk : ∀ a, only a → Leads t (k a) such) : Leads t (w >>= k) such := by
  intro taken t' hextends hfiles
  obtain ⟨hextends', hfiles', honly⟩ := hw taken t' hextends hfiles
  rcases h : w.exec taken t' with ⟨⟨e | a, taken'⟩, t''⟩ <;> rw [h] at hextends' hfiles' honly
  · rw [Work.exec_bind_error h]
    exact herror e t'' hextends' hfiles'
  · rw [Work.exec_bind_ok h]
    exact hk a (honly a rfl) taken' t'' hextends' hfiles'

theorem spares_demand (e : MappingError) (a? : Option α) :
    Spares t (demand e a?) fun a => a? = some a := by
  intro taken t' hextends hfiles
  cases a? with
  | none => exact ⟨hextends, hfiles, fun _ h => by cases h⟩
  | some a => exact ⟨hextends, hfiles, fun _ h => by cases h; rfl⟩

theorem spares_ensure (e : MappingError) (done : Bool) :
    Spares t (ensure e done) fun _ => done := by
  intro taken t' hextends hfiles
  cases done with
  | false => exact ⟨hextends, hfiles, fun _ h => by cases h⟩
  | true => exact ⟨hextends, hfiles, fun _ _ => rfl⟩

theorem fileText?_of_files {t t' : FileTree} (h : t'.files = t.files) (l : Location) :
    t'.fileText? l = t.fileText? l := by
  rw [FileTree.fileText?, FileTree.fileText?, h]

theorem spares_read (input : String) :
    Spares t (liftM (FileTree.system.read? input)) fun text? =>
      ∀ text, text? = some text → t.fileText? (t.place input) = some text := by
  intro taken t' hextends hfiles
  refine ⟨hextends, hfiles, fun text? htext? text htext => ?_⟩
  cases htext?
  obtain ⟨l, hl, hread⟩ := Option.bind_eq_some_iff.1 htext
  rw [← hextends.place, ← FileTree.locate?_eq hl, ← fileText?_of_files hfiles]
  exact hread

theorem spares_createDirectories (directory : String) :
    Spares t (liftM (FileTree.system.createDirectories directory)) fun _ => True := by
  intro taken t' hextends hfiles
  have hkeeps : t'.Extends ((t'.withDirectory? directory).getD t') ∧
      ((t'.withDirectory? directory).getD t').files = t'.files := by
    cases h : t'.withDirectory? directory with
    | none => exact ⟨.refl t', rfl⟩
    | some t'' => exact FileTree.withDirectory?_keeps h
  rw [exec_createDirectories]
  exact ⟨hextends.trans hkeeps.1, hkeeps.2.trans hfiles, fun _ _ => trivial⟩

theorem spares_baseIri (b : Batch) (output : String) :
    Spares t (b.baseIri FileTree.system output) fun base => base = b.base t output := by
  intro taken t' hextends hfiles
  rw [exec_baseIri]
  refine ⟨hextends, hfiles, fun base h => ?_⟩
  cases h
  rw [Batch.base, Batch.base, hextends.workingDirectory]

theorem spares_mapText (b : Batch) (text base : String) :
    Spares t (b.mapText text base) fun r =>
      ∃ taken, (b.converter.mapDocument taken text (some base)).1 = .ok r :=
  fun taken _ hextends hfiles => ⟨hextends, hfiles, fun _ h => ⟨taken, h⟩⟩

end

/-! ## Mapping a file -/

/-- Writing a file fails and changes nothing, or puts the text at its path. -/
theorem exec_write (path text : String) (taken : Nat) {t t' : FileTree} (hextends : t.Extends t')
    (hfiles : t'.files = t.files) :
    let r := (liftM (FileTree.system.write path text) : Work (StateM FileTree) Bool).exec taken t'
    r = ((.ok false, taken), t') ∨ ∃ t'', r = ((.ok true, taken), t'') ∧ Puts t path text t'' := by
  rw [exec_writeText]
  cases hwrite : t'.write? path text with
  | none => exact .inl rfl
  | some t'' =>
    obtain ⟨l, hl, rfl⟩ := FileTree.write?_eq hwrite
    have hset := t'.extends_setFile l text
    have hplace : l = t.place path := (FileTree.locate?_eq hl).trans (hextends.place path)
    refine .inr ⟨_, rfl, hextends.trans hset, hplace ▸ hset.locate? hl, fun l' => ?_⟩
    rw [Option.getD_some, FileTree.fileText?_setFile, hplace, fileText?_of_files hfiles]

theorem processDocument_ends (b : Batch) (directory input : String) (t : FileTree) :
    Leads t (b.processDocument FileTree.system directory input) (Ends b directory input t) := by
  have hfailed (e : MappingError) (t' : FileTree) (hextends : t.Extends t')
      (hfiles : t'.files = t.files) : Ends b directory input t (.error e) t' :=
    .unwritten e hextends hfiles
  unfold processDocument
  refine Leads.bind (spares_read input) hfailed fun text? htext? => ?_
  refine Leads.bind (spares_demand _ text?) hfailed fun text htext => ?_
  refine Leads.bind (spares_demand _ (stem? input)) hfailed fun stem hstem => ?_
  refine Leads.bind (spares_createDirectories directory) hfailed fun created _ => ?_
  refine Leads.bind (spares_ensure _ created) hfailed fun _ _ => ?_
  refine Leads.bind (spares_baseIri b _) hfailed fun base hbase => ?_
  refine Leads.bind (spares_mapText b text base) hfailed fun ⟨g, d⟩ hmap => ?_
  obtain ⟨taken, hmap⟩ := hmap
  subst hbase
  have hmaps : b.Maps t directory input (outputPath directory stem g.format) g d :=
    ⟨text, stem, taken, htext? text htext, hstem, rfl, hmap⟩
  -- From here on the file may have been written.
  intro taken t' hextends hfiles
  dsimp only
  rcases exec_write (outputPath directory stem g.format) g.written.text taken hextends hfiles with
    hnot | ⟨t'', hdone, hputs⟩
  · rw [Work.exec_bind_ok hnot]
    exact hfailed _ t' hextends hfiles
  · rw [Work.exec_bind_ok hdone]
    rw [Work.exec_bind_ok (exec_ensure_done _ taken t'')]
    cases hwhole : g.written.error with
    | none => exact .written hmaps hwhole hputs
    | some e => exact .broken hmaps hwhole hputs

/-! ## Failures -/

/-- If mapping a file fails, all files stay as they are, whatever the step that failed, but for one:
when the document has been mapped and its graph cannot be written, then what there is of the text is at
the path of the output, in place of a file that was there. -/
theorem processDocument_error (b : Batch) (directory input : String) (taken : Nat) (t : FileTree)
    {e : MappingError}
    (h : ((b.processDocument FileTree.system directory input).exec taken t).1.1 = .error e) :
    let after := ((b.processDocument FileTree.system directory input).exec taken t).2
    after.files = t.files ∨
      ∃ path g d, b.Maps t directory input path g d ∧ g.written.error = some e ∧
        after.textAt? path = some g.written.text ∧
        ∀ l, l ≠ t.place path → after.fileText? l = t.fileText? l := by
  intro after
  have hends := b.processDocument_ends directory input t taken t (.refl t) rfl
  rw [h] at hends
  cases hends with
  | unwritten _ _ hfiles => exact .inl hfiles
  | @broken _ path g d _ hmaps hbroken hputs =>
    refine .inr ⟨path, g, d, hmaps, hbroken, ?_, fun l hl => ?_⟩
    · rw [FileTree.textAt?, hputs.located, Option.bind_some, hputs.fileText?, if_pos rfl]
    · rw [hputs.fileText?, if_neg hl]

/-- Turtle declares all namespaces, and one of these is no IRI. -/
def undeclarable : Batch where
  converter :=
    { config :=
        { root := .mk .mapping "config" [] [] "<config/>"
          namespaces := NamespaceTable.standard.register "ex" "not an IRI"
          warnings := [] }
      transforms := {}
      format := .turtle
      base := some "http://example.com/" }
  outputDirectory := "out"

/-- A document, and the output of an earlier one of its name. -/
def mappedBefore : FileTree where
  files := [(["in", "x.xml"], "<x/>"), (["out", "x.ttl"], "before")]

/-- What comes of mapping the document. -/
def mappedAgain : (Except MappingError Report × Nat) × FileTree :=
  (undeclarable.processDocument FileTree.system "out" "in/x.xml").exec 0 mappedBefore

theorem mappedBefore_run :
    mappedAgain.1.1.isOk = false ∧ mappedAgain.2.files ≠ mappedBefore.files ∧
      mappedBefore.textAt? "out/x.ttl" = some "before" ∧
      mappedAgain.2.textAt? "out/x.ttl" = some "" := by
  decide +kernel

theorem mappedBefore_fails :
    ∃ e, ((undeclarable.processDocument FileTree.system "out" "in/x.xml").exec 0 mappedBefore).1.1 =
      .error e := by
  have hfails : ((undeclarable.processDocument FileTree.system "out" "in/x.xml").exec 0
      mappedBefore).1.1.isOk = false := mappedBefore_run.1
  cases h : ((undeclarable.processDocument FileTree.system "out" "in/x.xml").exec 0
      mappedBefore).1.1 with
  | ok report =>
    rw [h] at hfails
    cases hfails
  | error e => exact ⟨e, rfl⟩

/-- What the earlier output had is lost. -/
theorem mappedBefore_lost :
    let r := (undeclarable.processDocument FileTree.system "out" "in/x.xml").exec 0 mappedBefore
    (∃ e, r.1.1 = .error e) ∧ mappedBefore.textAt? "out/x.ttl" = some "before" ∧
      r.2.textAt? "out/x.ttl" = some "" :=
  ⟨mappedBefore_fails, mappedBefore_run.2.2⟩

theorem mappedBefore_error :
    let r := (undeclarable.processDocument FileTree.system "out" "in/x.xml").exec 0 mappedBefore
    ∃ e, r.1.1 = .error e ∧
      ∃ path g d, undeclarable.Maps mappedBefore "out" "in/x.xml" path g d ∧
        g.written.error = some e ∧ r.2.textAt? path = some g.written.text ∧
        ∀ l, l ≠ mappedBefore.place path → r.2.fileText? l = mappedBefore.fileText? l := by
  obtain ⟨e, he⟩ := mappedBefore_fails
  have hchanged : ((undeclarable.processDocument FileTree.system "out" "in/x.xml").exec 0
      mappedBefore).2.files ≠ mappedBefore.files := mappedBefore_run.2.1
  exact ⟨e, he, (processDocument_error undeclarable "out" "in/x.xml" 0 mappedBefore he).resolve_left
    hchanged⟩

end Triplify.Batch
