import Triplify.Batch
import Triplify.CommandLine.Command
import Triplify.CommandLine.Sample
import Triplify.Text.Casing
import Triplify.Transform.Bundle
import Triplify.Transform.Collections
/-!
# Carrying out commands

A command succeeds, or fails with a list of messages: what could not be done first, then its cause.
-/

namespace Triplify.CommandLine

open Mapping

/-- A task, with the messages of its failure. -/
abbrev Task (m : Type → Type) := ExceptT (List String) m

namespace Task

variable {m : Type → Type} [Monad m]

/-- A result, whose error is the cause of what could not be done. -/
def because {α : Type} (context : String) : Except MappingError α → Task m α
  | .ok a => pure a
  | .error e => throw [context, e.message]

end Task

variable {m : Type → Type} [Monad m] (fs : FileSystem m)

/-- The text of a file. -/
def readText (path : String) : ExceptT MappingError m String := do
  match ← fs.read? path with
  | some text => return text
  | none => throw .io

/-- Reads the configuration in a file. -/
def readConfig (path : String) : ExceptT MappingError m Config := do
  MonadExcept.ofExcept (Config.ofText (← readText fs path))

/-- The configuration file is there. -/
def requireConfig (path : String) : Task m Unit := do
  if !(← fs.hasPath path) then
    throw [s!"Config file not found: {path}. Try using --config <PATH TO CONFIG>"]

/-- The name is that of a bundle. -/
def isBundleName (name : String) : Bool :=
  (Path.splitExtension name).2.any fun e => e.map Char.toLower == "json"

/-- Reads the bundle in a file. It is named for the file if it has no name. -/
def readBundle (path : String) : ExceptT MappingError m Bundle := do
  let name := (Batch.stem? path).getD "bundle"
  MonadExcept.ofExcept (Bundle.ofText name (← readText fs path))

/-- Reads bundles in order, up to the first that fails. -/
def readBundles : List String → ExceptT MappingError m (List Bundle)
  | [] => return []
  | path :: rest => do
    let b ← readBundle fs path
    return b :: (← readBundles rest)

/-- The paths of the files in a directory that are bundles. -/
def bundlePaths (directory : String) : List String → m (List String)
  | [] => return []
  | name :: rest => do
    let path := Path.join directory name
    let isBundle ← if isBundleName name then fs.isFile path else pure false
    let more ← bundlePaths directory rest
    return if isBundle then path :: more else more

/-- Reads all bundles in a directory, by their names. -/
def loadBundles (directory : String) : ExceptT MappingError m (List Bundle) := do
  match ← fs.names? directory with
  | none => throw .io
  | some names =>
    let sorted := names.mergeSort fun a b => !decide (b < a)
    let paths ← (bundlePaths fs directory sorted : m (List String))
    readBundles fs paths

/-- The providers for some options: the collections first, then the bundles. -/
def loadTransforms (modifiers : Option String) : Task m TransformRegistry := do
  let bundles ← match modifiers with
    | none => pure []
    | some directory =>
      Task.because s!"Failed to load transform bundles from: {directory}"
        (← (loadBundles fs directory).run)
  return ⟨Collections.provider :: bundles.map Bundle.provider⟩

/-- All inputs could be processed. -/
def summarize (reports : List Report) : Task m Unit := do
  let failed := (reports.filter (·.output.isNone)).length
  if failed > 0 then throw [s!"{failed} of {reports.length} file(s) could not be processed"]

/-- Processes inputs. -/
def runProcess (o : ProcessOptions) : Task m Unit := do
  requireConfig fs o.config
  if !(← fs.hasPath o.input) then throw [s!"Input file or directory not found: {o.input}"]
  let f ← Task.because "Invalid --format" (OutputFormat.ofText o.format)
  let config ← Task.because
    "Failed to load mapping configuration. See errors for additional details:"
    (← (readConfig fs o.config).run)
  Task.because "Failed to validate mapping configuration" config.validate
  let transforms ← loadTransforms fs o.modifiers
  let converter ← Task.because "Failed to create processor"
    (Converter.create config transforms f o.baseIri)
  let b : Batch := ⟨converter, o.output⟩
  let (context, work) :=
    if o.split then ("Failed to split input file", b.processSplit fs o.input)
    else ("Failed to process input", b.processPath fs o.input)
  let (result, _) ← work.run.run 0
  summarize (← Task.because context result)

/-- The sample of a name, in any case. -/
def Sample.ofName? (name : String) : Option Sample :=
  match Text.lowercase name with
  | "basic" => some .basic
  | "full" => some .full
  | _ => none

/-- Writes a sample to a path, or into the directory there. -/
def runGenerateConfig (kind output : String) : Task m Unit := do
  match Sample.ofName? kind with
  | none => throw ["Invalid template type. Must be either 'basic' or 'full'"]
  | some sample =>
    let path := if ← fs.isDirectory output then Path.join output "config.xml" else output
    if !(← fs.write path sample.text) then
      throw [s!"Failed to write configuration to: {output}"]

/-- Checks a configuration. -/
def runValidate (path : String) : Task m Unit := do
  requireConfig fs path
  let config ← Task.because
    "Failed to parse mapping configuration. See errors for additional details:"
    (← (readConfig fs path).run)
  Task.because "Failed to validate mapping configuration" config.validate

/-- Carries out a command. -/
def Command.run : Command → Task m Unit
  | process o => runProcess fs o
  | generateConfig kind output => runGenerateConfig fs kind output
  | validate config => runValidate fs config

end Triplify.CommandLine
