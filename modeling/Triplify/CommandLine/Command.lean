import Triplify.CommandLine.Options
/-!
# Commands

What the program can be asked to do, and reading that from its arguments. Options of the program
itself come before the name of the command, options of the command after it.
-/

namespace Triplify.CommandLine

/-- How to process inputs. -/
structure ProcessOptions where
  config : String
  input : String
  output : String
  format : String
  split : Bool
  pause : Bool
  modifiers : Option String
  baseIri : Option String
deriving Repr, DecidableEq

/-- What the program can be asked to do. -/
inductive Command
  | process (o : ProcessOptions)
  | generateConfig (kind output : String)
  | validate (config : String)
deriving Repr, DecidableEq

/-- The option that every command has. -/
def helpOption : OptionSpec := ⟨'h', "help", .help, "Print help"⟩

/-- The options of the program itself. -/
def programOptions : List OptionSpec :=
  [⟨'v', "verbose", .flag, "Enable verbose output"⟩, helpOption,
    ⟨'V', "version", .version, "Print version"⟩]

/-- The options for processing inputs. -/
def processOptions : List OptionSpec :=
  [⟨'c', "config", .path, "Path to the mapping configuration file"⟩,
    ⟨'i', "input", .path, "Input XML file, or a directory whose files are all processed"⟩,
    ⟨'o', "output", .path, "Output directory for generated RDF files"⟩,
    ⟨'f', "format", .text, "Output format: rdf, ttl, n3, trig, nt or nq"⟩,
    ⟨'s', "split", .flag, "Split the input file into chunks"⟩,
    ⟨'p', "pause", .flag, "Wait for return to be pressed before exiting"⟩,
    ⟨'m', "modifiers", .path, "Directory of JSON transform bundles"⟩,
    ⟨'b', "base-iri", .text, "Base IRI for relative identifiers"⟩, helpOption]

/-- The options for writing a configuration to begin with. -/
def generateOptions : List OptionSpec :=
  [⟨'t', "type", .text, "Type of configuration template to generate (basic/full)"⟩,
    ⟨'o', "output", .path, "Output path for the generated configuration"⟩, helpOption]

/-- The options for checking a configuration. -/
def validateOptions : List OptionSpec :=
  [⟨'c', "config", .path, "Path to the mapping configuration file to validate"⟩, helpOption]

/-- The value of an option that must be there. -/
def Found.demand (found : Found) (name : String) : Except Stop String :=
  match found.lookup name with
  | some value => .ok value
  | none => .error .usage

/-- The value of an option, or another text. -/
def Found.valueOr (found : Found) (name fallback : String) : String :=
  (found.lookup name).getD fallback

namespace Command

/-- The names of the commands. -/
def names : List String := ["process", "generate-config", "validate"]

/-- The command for processing with some options. -/
def processing (found : Found) : Except Stop Command := do
  return process {
    config := ← found.demand "config"
    input := ← found.demand "input"
    output := ← found.demand "output"
    format := found.valueOr "format" "rdf"
    split := (found.lookup "split").isSome
    pause := (found.lookup "pause").isSome
    modifiers := found.lookup "modifiers"
    baseIri := found.lookup "base-iri" }

/-- Reads a command by its name and the arguments after it. -/
def ofName (name : String) (rest : List String) : Except Stop Command :=
  match name with
  | "process" => do processing (← readOptions processOptions [] none rest)
  | "generate-config" => do
    let found ← readOptions generateOptions [] none rest
    return generateConfig (found.valueOr "type" "basic") (found.valueOr "output" "config.xml")
  | "validate" => do
    let found ← readOptions validateOptions [] none rest
    return validate (found.valueOr "config" "config.xml")
  | "help" =>
    match rest with
    | [] => .error .help
    | [topic] => .error (if topic = "help" || names.contains topic then .help else .usage)
    | _ => .error .usage
  | _ => .error .usage

/-- Reads a command after some options of the program. -/
def afterOptions (found : Found) : List String → Except Stop Command
  | [] => .error .usage
  | argument :: rest =>
    match Token.ofText argument with
    | .word name => ofName name rest
    | .escape => .error .usage
    | .long name value => do
      let (found, _) ← readLong programOptions found name value
      afterOptions found rest
    | .short chars => do
      let (found, _) ← readCluster programOptions found chars
      afterOptions found rest

/-- Reads the arguments of the program. -/
def ofArguments (arguments : List String) : Except Stop Command :=
  afterOptions [] arguments

end Command

end Triplify.CommandLine
