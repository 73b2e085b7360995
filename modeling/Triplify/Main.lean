import Triplify.CommandLine.Execute
/-!
# The program

The files of the machine as a place for files, and the program itself: it reads its arguments,
carries out the command and reports a failure.
-/

namespace Triplify

namespace Disk

/-- The result of an action, if it succeeds. -/
def attempt {α : Type} (action : IO α) : IO (Option α) := do
  try
    return some (← action)
  catch _ =>
    return none

/-- There is a directory at the path. -/
def isDirectory (path : String) : IO Bool := do
  if path.isEmpty then return false
  return (← attempt (IO.FS.realPath (path ++ "/."))).isSome

/-- There is something else than a directory at the path. -/
def isFile (path : String) : IO Bool := do
  if path.isEmpty || (← isDirectory path) then return false
  return (← attempt (IO.FS.realPath path)).isSome

/-- The names in a directory. -/
def names? (path : String) : IO (Option (List String)) :=
  attempt do
    let directory ← IO.FS.realPath path
    return (← directory.readDir).toList.map (·.fileName)

/-- The files below a directory. -/
partial def filesBelow? (path : String) : IO (Option (List (List String))) := do
  match ← names? path with
  | none => return none
  | some names =>
    let mut files := []
    for name in names do
      let inner := Path.join path name
      if ← isDirectory inner then
        match ← filesBelow? inner with
        | none => return none
        | some more => files := files ++ more.map (name :: ·)
      else if ← isFile inner then
        files := files ++ [[name]]
    return some files

/-- The files of the machine. -/
def system : FileSystem IO where
  workingDirectory := return (← IO.currentDir).toString
  isFile := isFile
  isDirectory := isDirectory
  read? path := attempt (IO.FS.readFile path)
  write path text := return (← attempt (IO.FS.writeFile path text)).isSome
  createDirectories path := do
    if path.isEmpty then return true
    return (← attempt (IO.FS.createDirAll path)).isSome
  filesBelow? := filesBelow?
  names? := names?

end Disk

namespace CommandLine

/-- A line about an option. -/
def OptionSpec.line (o : OptionSpec) : String :=
  s!"  -{o.short}, --{o.long}  {o.about}\n"

/-- The help text about a command with its options. -/
def helpText : String :=
  "Converts XML files to RDF based on a declarative mapping configuration\n\n" ++
    "Usage: triplify [OPTIONS] <COMMAND>\n\nOptions:\n" ++
    String.join (programOptions.map OptionSpec.line) ++
    "\nprocess: map XML files to RDF according to a mapping configuration\n" ++
    String.join (processOptions.map OptionSpec.line) ++
    "\ngenerate-config: generate a mapping configuration template\n" ++
    String.join (generateOptions.map OptionSpec.line) ++
    "\nvalidate: validate a mapping configuration file\n" ++
    String.join (validateOptions.map OptionSpec.line)

/-- The lines that report a failure: what could not be done, and why. -/
def failureText : List String → String
  | [] => "Error"
  | [message] => "Error: " ++ message
  | message :: causes =>
    "Error: " ++ message ++ "\n\nCaused by:" ++ String.join (causes.map ("\n    " ++ ·))

/-- The command asks to wait before the program ends. -/
def Command.pauses : Command → Bool
  | process o => o.pause
  | _ => false

end CommandLine

end Triplify

open Triplify CommandLine in
/-- Carries out what the arguments ask for. The exit code is 1 after a failure, and 2 for arguments
that are wrong. -/
def main (arguments : List String) : IO UInt32 := do
  match Command.ofArguments arguments with
  | .error .help =>
    IO.print helpText
    return 0
  | .error .version =>
    IO.println "triplify 0.1.0"
    return 0
  | .error .usage =>
    IO.eprint helpText
    return 2
  | .ok command =>
    let result ← (command.run Disk.system).run
    if command.pauses then
      IO.println "Processing finished. Press return to end."
      let _ ← (← IO.getStdin).getLine
    match result with
    | .ok () => return 0
    | .error messages =>
      IO.eprintln (failureText messages)
      return 1
