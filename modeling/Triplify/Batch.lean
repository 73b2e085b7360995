import Triplify.FileSystem
import Triplify.Mapping.Document
import Triplify.Serialize
import Triplify.Split.Chunk
/-!
# Batches

Mapping files: one file, all files below a directory, or the chunks of one large file. Each input
has one output, named like the input. An input that fails is reported, and the batch goes on.
-/

namespace Triplify

open Mapping

/-- What became of an input. There is no output if it could not be mapped. -/
structure Report where
  input : String
  output : Option String
  outcome : Outcome
deriving Repr, DecidableEq

/-- How to map files, and where their outputs go. -/
structure Batch where
  converter : Converter
  outputDirectory : String

namespace Batch

/-- Work on files. It keeps count of the fresh identifiers, also where it fails. -/
abbrev Work (m : Type → Type) := ExceptT MappingError (StateT Nat m)

variable {m : Type → Type} [Monad m] (fs : FileSystem m)

/-- A result that is there, or the error for one that is not. -/
def demand {α : Type} (e : MappingError) : Option α → Work m α
  | some a => pure a
  | none => throw e

/-- A step that has to succeed. -/
def ensure (e : MappingError) (done : Bool) : Work m Unit :=
  if done then pure () else throw e

/-- The name of a file without its extension. -/
def stem? (path : String) : Option String :=
  (Path.fileName? path).map fun name => (Path.splitExtension name).1

/-- The path of the output for an input of this name. -/
def outputPath (directory stem : String) (f : OutputFormat) : String :=
  Path.join directory (stem ++ "." ++ f.fileExtension)

/-- The base for relative references: the given one, or else the URL of the output. -/
def baseIri (b : Batch) (output : String) : Work m String := do
  match b.converter.base with
  | some base => return base
  | none => return Path.fileUrl (Path.join (← fs.workingDirectory) output)

/-- Maps a text, keeping count of the fresh identifiers. -/
def mapText (b : Batch) (text base : String) : Work m (Graph × Diagnostics) := fun taken =>
  return b.converter.mapDocument taken text (some base)

/-- Maps a file into a directory. The output is named for the format that the graph has in the
end; it is there, as far as it could be written, even if writing the graph fails. -/
def processDocument (b : Batch) (directory input : String) : Work m Report := do
  let text ← demand (.processing (.notRead input)) (← fs.read? input)
  let stem ← demand (.processing (.noName input)) (stem? input)
  ensure (.processing .noOutputDirectory) (← fs.createDirectories directory)
  let base ← baseIri fs b (outputPath directory stem b.converter.format)
  let (g, diagnostics) ← mapText b text base
  let output := outputPath directory stem g.format
  ensure (.processing (.notCreated output)) (← fs.write output g.written.text)
  match g.written.error with
  | some e => throw e
  | none => return ⟨input, some output, diagnostics.outcome⟩

/-- The report on an input that could not be mapped. -/
def failureReport (input : String) (e : MappingError) : Report :=
  ⟨input, none, .failure [⟨e.message, some input⟩] []⟩

/-- Maps files in order, each with its report. -/
def processFiles (b : Batch) (directory : String) : List String → StateT Nat m (List Report)
  | [] => return []
  | input :: rest => do
    let report ← match ← (processDocument fs b directory input).run with
      | .ok report => pure report
      | .error e => pure (failureReport input e)
    return report :: (← processFiles b directory rest)

/-- The inputs at a path: the file, or all files below the directory. -/
def inputs (path : String) : Work m (List String) := do
  if ← fs.isDirectory path then
    let files ← demand .io (← fs.filesBelow? path)
    return (FileSystem.inOrder files).map (FileSystem.pathBelow path)
  else if ← fs.isFile path then return [path]
  else throw (.processing (.noInput path))

/-- Maps the file at a path, or all files below the directory there. -/
def processPath (b : Batch) (path : String) : Work m (List Report) := do
  let files ← inputs fs path
  processFiles fs b b.outputDirectory files

/-- Writes chunks as numbered files, and tells their paths. -/
def writeChunks (directory stem : String) (number : Nat) : List String → Work m (List String)
  | [] => return []
  | text :: rest => do
    let path := Path.join directory s!"{stem}_{number}.xml"
    ensure (.split (.notWritten path)) (← fs.write path text)
    return path :: (← writeChunks directory stem (number + 1) rest)

/-- Cuts a file into chunks in a directory, and tells their paths. -/
def splitFile (s : SplitSettings) (directory input : String) : Work m (List String) := do
  let stem ← demand (.split (.noName input)) (stem? input)
  let text ← demand (.split (.notOpened input)) (← fs.read? input)
  ensure (.split .noChunkDirectory) (← fs.createDirectories directory)
  let chunks := Split.Chunks.ofText s text
  let paths ← writeChunks fs directory stem 0 chunks.texts
  match chunks.fault with
  | some f => throw (.split f)
  | none => return paths

/-- Cuts a file into chunks as the configuration says, and maps them. -/
def processSplit (b : Batch) (input : String) : Work m (List Report) := do
  if !(← fs.isFile input) then throw (.split (.notAFile input))
  let s ← MonadExcept.ofExcept b.converter.config.splitSettings
  let chunks ← splitFile fs s (s.inputChunks input) input
  processFiles fs b (s.outputChunks b.outputDirectory) chunks

end Batch

end Triplify
