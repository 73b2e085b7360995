import Triplify.Batch
import Triplify.Proofs.Graph.Format
import Triplify.Proofs.Walk.Calls
/-!
# What mapping a file writes

Any place for files can note what is written to it. Mapping a file writes nothing, or one text: the
graph of the document, under a name with the extension of the format in which it is written.

`processDocument_writes`: what is noted. `named_graphs_are_kept`: the text is written in a format that
has all that the graph has.
-/

namespace Triplify

/-! ## Places that note what is written -/

/-- What is written, in order: the paths and the texts. -/
abbrev WriteLog := List (String × String)

namespace FileSystem

variable {σ : Type}

/-- An operation that notes nothing. -/
def quiet {α : Type} (step : StateM σ α) : StateM (σ × WriteLog) α := fun s =>
  ((step s.1).1, ((step s.1).2, s.2))

/-- A place for files, whatever it does, that notes what is written to it. -/
def noting (fs : FileSystem (StateM σ)) : FileSystem (StateM (σ × WriteLog)) where
  workingDirectory := quiet fs.workingDirectory
  isFile path := quiet (fs.isFile path)
  isDirectory path := quiet (fs.isDirectory path)
  read? path := quiet (fs.read? path)
  write path text := fun s =>
    ((fs.write path text s.1).1, ((fs.write path text s.1).2, s.2 ++ [(path, text)]))
  createDirectories path := quiet (fs.createDirectories path)
  filesBelow? path := quiet (fs.filesBelow? path)
  names? path := quiet (fs.names? path)

end FileSystem

namespace Batch

/-! ## Work on a place for files -/

namespace Work

variable {S α β : Type}

/-- The outcome of work, the count of fresh identifiers after it, and the place after it. -/
def exec (w : Work (StateM S) α) (taken : Nat) (s : S) : (Except MappingError α × Nat) × S :=
  (w.run taken).run s

theorem exec_bind_ok {w : Work (StateM S) α} {taken taken' : Nat} {s s' : S} {a : α}
    (h : w.exec taken s = ((.ok a, taken'), s')) (k : α → Work (StateM S) β) :
    (w >>= k).exec taken s = (k a).exec taken' s' := by
  have hbind : (w >>= k).exec taken s =
    (ExceptT.bindCont k (w.exec taken s).1.1 (w.exec taken s).1.2).run (w.exec taken s).2 := rfl
  rw [hbind, h]
  rfl

theorem exec_bind_error {w : Work (StateM S) α} {taken taken' : Nat} {s s' : S} {e : MappingError}
    (h : w.exec taken s = ((.error e, taken'), s')) (k : α → Work (StateM S) β) :
    (w >>= k).exec taken s = ((.error e, taken'), s') := by
  have hbind : (w >>= k).exec taken s =
    (ExceptT.bindCont k (w.exec taken s).1.1 (w.exec taken s).1.2).run (w.exec taken s).2 := rfl
  rw [hbind, h]
  rfl

end Work

/-! ## Work that writes nothing -/

section
variable {σ α β : Type}

/-- The work writes nothing, wherever it is done, and has only such results. -/
def Quiet (w : Work (StateM (σ × WriteLog)) α) (only : α → Prop) : Prop :=
  ∀ taken s log, (w.exec taken (s, log)).2.2 = log ∧
    ∀ a, (w.exec taken (s, log)).1.1 = .ok a → only a

/-- Wherever the work is done, its outcome and what is noted after it are such. -/
def Yields (log : WriteLog) (w : Work (StateM (σ × WriteLog)) α)
    (such : Except MappingError α → WriteLog → Prop) : Prop :=
  ∀ taken s, such (w.exec taken (s, log)).1.1 (w.exec taken (s, log)).2.2

/-- Work after work that writes nothing, which may fail. -/
theorem Yields.bind {log : WriteLog} {w : Work (StateM (σ × WriteLog)) α} {only : α → Prop}
    {k : α → Work (StateM (σ × WriteLog)) β} {such : Except MappingError β → WriteLog → Prop}
    (hw : Quiet w only) (herror : ∀ e, such (.error e) log)
    (hk : ∀ a, only a → Yields log (k a) such) : Yields log (w >>= k) such := by
  intro taken s
  obtain ⟨hlog, honly⟩ := hw taken s log
  rcases h : w.exec taken (s, log) with ⟨⟨e | a, taken'⟩, s', log'⟩ <;> rw [h] at hlog honly
  · cases hlog
    rw [Work.exec_bind_error h]
    exact herror e
  · cases hlog
    rw [Work.exec_bind_ok h]
    exact hk a (honly a rfl) taken' s'

theorem Quiet.bind {w : Work (StateM (σ × WriteLog)) α} {only : α → Prop}
    {k : α → Work (StateM (σ × WriteLog)) β} {only' : β → Prop} (hw : Quiet w only)
    (hk : ∀ a, Quiet (k a) only') : Quiet (w >>= k) only' := by
  intro taken s log
  have hyields : Yields log (w >>= k) fun r log' => log' = log ∧ ∀ b, r = .ok b → only' b :=
    .bind hw (fun _ => ⟨rfl, fun _ h => by cases h⟩) fun a _ taken s => hk a taken s log
  exact hyields taken s

theorem quiet_pure (a : α) : Quiet (σ := σ) (pure a) fun _ => True := fun _ _ _ =>
  ⟨rfl, fun _ _ => trivial⟩

theorem quiet_step (step : StateM σ α) :
    Quiet (liftM (FileSystem.quiet step) : Work (StateM (σ × WriteLog)) α) fun _ => True := fun _ _ _ =>
  ⟨rfl, fun _ _ => trivial⟩

theorem quiet_demand (e : MappingError) (a? : Option α) :
    Quiet (σ := σ) (demand e a?) fun a => a? = some a := by
  intro taken s log
  cases a? with
  | none => exact ⟨rfl, fun _ h => by cases h⟩
  | some a => exact ⟨rfl, fun _ h => by cases h; rfl⟩

theorem quiet_ensure (e : MappingError) (done : Bool) :
    Quiet (σ := σ) (ensure e done) fun _ => done := by
  intro taken s log
  cases done with
  | false => exact ⟨rfl, fun _ h => by cases h⟩
  | true => exact ⟨rfl, fun _ _ => rfl⟩

theorem quiet_baseIri (fs : FileSystem (StateM σ)) (b : Batch) (output : String) :
    Quiet (b.baseIri fs.noting output) fun _ => True := by
  unfold baseIri
  split
  · exact quiet_pure _
  · exact (quiet_step fs.workingDirectory).bind fun directory => quiet_pure _

theorem quiet_mapText (b : Batch) (text base : String) :
    Quiet (σ := σ) (b.mapText text base) fun r =>
      ∃ taken, (b.converter.mapDocument taken text (some base)).1 = .ok r :=
  fun taken _ _ => ⟨rfl, fun _ h => ⟨taken, h⟩⟩

/-- What comes of mapping a file: nothing is written, or the graph of a document is, under the name for
its format. -/
def Delivered (b : Batch) (directory input : String) (result : Except MappingError Report)
    (log : WriteLog) : Prop :=
  (∃ e, result = .error e) ∧ log = [] ∨
    ∃ taken text base g d stem, (b.converter.mapDocument taken text (some base)).1 = .ok (g, d) ∧
      stem? input = some stem ∧
      log = [(outputPath directory stem g.format, g.written.text)] ∧
      ∀ report, result = .ok report →
        g.written.error = none ∧
        report = ⟨input, some (outputPath directory stem g.format), d.outcome⟩

theorem processDocument_writes (fs : FileSystem (StateM σ)) (b : Batch) (directory input : String) :
    Yields [] (b.processDocument fs.noting directory input) (Delivered b directory input) := by
  have hfailed (e : MappingError) : Delivered b directory input (.error e) [] := .inl ⟨⟨e, rfl⟩, rfl⟩
  unfold processDocument
  refine Yields.bind (quiet_step (fs.read? input)) hfailed fun text? _ => ?_
  refine Yields.bind (quiet_demand _ text?) hfailed fun text _ => ?_
  refine Yields.bind (quiet_demand _ (stem? input)) hfailed fun stem hstem => ?_
  refine Yields.bind (quiet_step (fs.createDirectories directory)) hfailed fun created _ => ?_
  refine Yields.bind (quiet_ensure _ created) hfailed fun _ _ => ?_
  refine Yields.bind (quiet_baseIri fs b _) hfailed fun base _ => ?_
  refine Yields.bind (quiet_mapText b text base) hfailed fun ⟨g, d⟩ hmap => ?_
  -- From here on the text is noted, whether the place took it or not.
  intro taken s
  have hwrite : (liftM (fs.noting.write (outputPath directory stem g.format) g.written.text) :
        Work (StateM (σ × WriteLog)) Bool).exec taken (s, []) =
      ((.ok (fs.write (outputPath directory stem g.format) g.written.text s).1, taken),
        ((fs.write (outputPath directory stem g.format) g.written.text s).2,
          [(outputPath directory stem g.format, g.written.text)])) := rfl
  dsimp only
  rw [Work.exec_bind_ok hwrite]
  have hwritten {result : Except MappingError Report} (h : ∀ report, result = .ok report →
        g.written.error = none ∧
        report = ⟨input, some (outputPath directory stem g.format), d.outcome⟩) :
      Delivered b directory input result [(outputPath directory stem g.format, g.written.text)] := by
    obtain ⟨taken, hmap⟩ := hmap
    exact .inr ⟨taken, text, base, g, d, stem, hmap, hstem, rfl, h⟩
  refine Yields.bind (quiet_ensure _ _) (fun e => hwritten fun _ h => by cases h) (fun _ _ => ?_) _ _
  intro taken s
  split
  · exact hwritten fun _ h => by cases h
  · next hwhole =>
    refine hwritten fun report hreport => ⟨hwhole, ?_⟩
    cases hreport
    rfl

end

end Batch

/-! ## Names of outputs -/

/-- An extension without dots is read off the name that it was put to. -/
theorem Path.splitExtension_append {stem extension : String} (hstem : stem ≠ "")
    (hextension : '.' ∉ extension.toList) :
    splitExtension (stem ++ "." ++ extension) = (stem, some extension) := by
  have hname : (stem ++ "." ++ extension).toList = stem.toList ++ '.' :: extension.toList := by simp
  have htaken : ((stem.toList ++ '.' :: extension.toList).reverse.takeWhile (· ≠ '.')).reverse
      = extension.toList := by
    have hall : ∀ c ∈ extension.toList.reverse, decide (c ≠ '.') := by
      intro c hc
      rw [decide_eq_true_eq]
      rintro rfl
      exact hextension (List.mem_reverse.1 hc)
    rw [List.reverse_append, List.reverse_cons, List.append_assoc,
      List.takeWhile_append_of_pos hall]
    simp
  have hrest : (stem.toList ++ '.' :: extension.toList).take
      ((stem.toList ++ '.' :: extension.toList).length - extension.toList.length - 1) = stem.toList := by
    rw [List.length_append, List.length_cons]
    exact List.take_left' (by omega)
  simp only [splitExtension, hname, htaken, hrest]
  rw [if_neg]
  · simp
  · have hnonempty : stem.toList ≠ [] := by simpa using hstem
    simp [hnonempty]
    omega

theorem Path.splitLast?_of_fileName? {path name : String} (h : fileName? path = some name) :
    ∃ directory, splitLast? path = some (directory, name) := by
  unfold fileName? at h
  split at h
  · next directory last hlast =>
    split at h
    · cases h
    · cases h
      exact ⟨directory, hlast⟩
  · cases h

theorem Path.fileName?_ne_empty {path name : String} (h : fileName? path = some name) : name ≠ "" := by
  obtain ⟨directory, hlast⟩ := splitLast?_of_fileName? h
  simp only [splitLast?] at hlast
  split at hlast
  · cases hlast
  · next hne =>
    simp only [Option.some.injEq, Prod.mk.injEq] at hlast
    obtain ⟨-, rfl⟩ := hlast
    simpa using hne

theorem Path.splitExtension_ne_empty {name : String} (h : name ≠ "") : (splitExtension name).1 ≠ "" := by
  simp only [splitExtension]
  split
  · exact h
  · next hne =>
    simp only [Bool.or_eq_true, not_or] at hne
    simpa using hne.2

theorem Batch.stem?_ne_empty {input stem : String} (h : stem? input = some stem) : stem ≠ "" := by
  obtain ⟨name, hname, rfl⟩ := Option.map_eq_some_iff.1 h
  exact Path.splitExtension_ne_empty (Path.fileName?_ne_empty hname)

theorem OutputFormat.dot_notMem_fileExtension (f : OutputFormat) : '.' ∉ f.fileExtension.toList := by
  cases f <;> decide

/-- The name of an output has the extension of its format. -/
theorem Batch.splitExtension_output {input stem : String} (h : stem? input = some stem)
    (f : OutputFormat) :
    Path.splitExtension (stem ++ "." ++ f.fileExtension) = (stem, some f.fileExtension) :=
  Path.splitExtension_append (stem?_ne_empty h) f.dot_notMem_fileExtension

namespace Batch

/-- A text that is written for a document: the graph of the document, as its format is written, under a
name with the extension of that format. -/
structure IsOutput (b : Batch) (directory : String) (g : Graph) (path text : String) : Prop where
  mapped : ∃ taken source base d, (b.converter.mapDocument taken source base).1 = .ok (g, d)
  reached : ∃ base calls, g = (GraphEdit.execAll calls (b.converter.newGraph base)).2
  named : ∃ stem, path = Path.join directory (stem ++ "." ++ g.format.fileExtension) ∧
    Path.splitExtension (stem ++ "." ++ g.format.fileExtension) = (stem, some g.format.fileExtension)
  written : text = (g.format.writer.run g).text

/-- No named graph is lost in writing. After any calls on a new graph the format is the first one,
unless that has no named graphs and one has been named: then it is TriG for good. So a graph that is
written as triples has none but the default graph, and its triples are all there is. Mapping a file,
in any place for files, writes nothing or the graph of the document, under the extension of the very
format that it is written in. -/
theorem named_graphs_are_kept {σ : Type} (v : Naming) (format : OutputFormat)
    (calls : List GraphCall) (fs : FileSystem (StateM σ)) (b : Batch) (directory input : String)
    (taken : Nat) (s : σ) :
    let fresh : Graph := { toNaming := v, format := format }
    let g := (GraphEdit.execAll calls fresh).2
    let after := (b.processDocument fs.noting directory input).exec taken (s, [])
    (format.hasNamedGraphs ∨ ¬ fresh.NamesOne calls → g.format = format) ∧
    (¬ format.hasNamedGraphs ∧ fresh.NamesOne calls → g.format = .trig) ∧
    (∀ write, g.format.writer = .triples write →
      g.Unnamed ∧ g.written = write g.namespaces (Rdf.numberedTriples g.triples)) ∧
    ((∃ e, after.1.1 = .error e) ∧ after.2.2 = [] ∨
      ∃ m path text, b.IsOutput directory m path text ∧ after.2.2 = [(path, text)] ∧
        ∀ report, after.1.1 = .ok report → report.output = some path) := by
  intro fresh g after
  have hg : g = fresh.afterAll calls := by
    simp only [g, GraphEdit.execAll_eq]
  obtain ⟨hnamed, hnot⟩ := fresh.format_afterAll calls
  rw [← hg] at hnamed hnot
  refine ⟨?kept, ?switched, ?triples, ?file⟩
  case kept =>
    rintro (hhas | hnone)
    · by_cases hone : fresh.NamesOne calls
      · exact (hnamed hone).trans (OutputFormat.withNamedGraphs_of_has hhas)
      · exact (hnot hone).1
    · exact (hnot hnone).1
  case switched =>
    rintro ⟨hhas, hone⟩
    rw [hnamed hone]
    exact if_neg hhas
  case triples =>
    intro write hwriter
    refine ⟨?_, by rw [Graph.written, hwriter]; rfl⟩
    rw [hg] at hwriter ⊢
    exact Graph.unnamed_afterAll v format calls hwriter
  case file =>
    obtain hfailed | ⟨taken, text, base, m, d, stem, hmap, hstem, hlog, hreport⟩ :=
      processDocument_writes fs b directory input taken s
    · exact .inl hfailed
    · refine .inr ⟨m, _, _, ⟨⟨taken, text, _, d, hmap⟩, ?_,
        ⟨stem, rfl, splitExtension_output hstem m.format⟩, rfl⟩, hlog, fun report h => ?_⟩
      · obtain ⟨made, hmade⟩ := Mapping.Converter.mapDocument_afterAll hmap
        exact ⟨some base, made, by rw [hmade, GraphEdit.execAll_eq]⟩
      · rw [(hreport report h).2]
        rfl

end Batch

end Triplify
