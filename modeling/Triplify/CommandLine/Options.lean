import Triplify.Text.Search
/-!
# Options

Reading the options among the arguments of a program. A long option is written `--name`, a short one
`-n`; short ones can be written together. The value of an option follows it, or is attached: after
an equals sign, or right after a short name. No option may come twice.
-/

namespace Triplify.CommandLine

/-- What an option is for. The value of a path must not be empty. -/
inductive OptionKind
  | flag
  | text
  | path
  | help
  | version
deriving Repr, DecidableEq

/-- An option. -/
structure OptionSpec where
  short : Char
  long : String
  kind : OptionKind
  about : String
deriving Repr, DecidableEq

/-- Why arguments do not lead to a command: they are wrong, or ask for something else. -/
inductive Stop
  | usage
  | help
  | version
deriving Repr, DecidableEq

/-- The options found so far, by their long names, with their values. -/
abbrev Found := List (String × String)

/-- An argument by its form. -/
inductive Token
  | escape
  | long (name : String) (value : Option String)
  | short (chars : List Char)
  | word (text : String)
deriving Repr, DecidableEq

namespace Token

/-- The form of an argument. A single hyphen is a word. -/
def ofText (text : String) : Token :=
  match text.toList with
  | ['-', '-'] => escape
  | '-' :: '-' :: rest =>
    match Text.cutAt? (· == '=') rest with
    | some (name, _, value) => long (String.ofList name) (some (String.ofList value))
    | none => long (String.ofList rest) none
  | '-' :: c :: rest => short (c :: rest)
  | _ => word text

end Token

/-- Adds an option with its value. -/
def Found.add (found : Found) (o : OptionSpec) (value : String) : Except Stop Found :=
  if (found.lookup o.long).isSome then .error .usage
  else if o.kind = .path && value.isEmpty then .error .usage
  else .ok (found ++ [(o.long, value)])

/-- Reads short options. The last of them may wait for its value. -/
def readCluster (specs : List OptionSpec) (found : Found) :
    List Char → Except Stop (Found × Option OptionSpec)
  | [] => .ok (found, none)
  | c :: rest =>
    match specs.find? (·.short == c) with
    | none => .error .usage
    | some o =>
      match o.kind, rest with
      | .help, _ => .error .help
      | .version, _ => .error .version
      | .flag, rest => do readCluster specs (← found.add o "") rest
      | _, [] => .ok (found, some o)
      | _, '=' :: value => do return (← found.add o (String.ofList value), none)
      | _, value => do return (← found.add o (String.ofList value), none)

/-- Reads a long option, which may wait for its value. -/
def readLong (specs : List OptionSpec) (found : Found) (name : String) (value : Option String) :
    Except Stop (Found × Option OptionSpec) :=
  match specs.find? (·.long == name) with
  | none => .error .usage
  | some o =>
    match o.kind, value with
    | .help, none => .error .help
    | .version, none => .error .version
    | .flag, none => do return (← found.add o "", none)
    | .help, some _ => .error .usage
    | .version, some _ => .error .usage
    | .flag, some _ => .error .usage
    | _, some value => do return (← found.add o value, none)
    | _, none => .ok (found, some o)

/-- Reads arguments that are all options and their values. The option given waits for its value. -/
def readOptions (specs : List OptionSpec) (found : Found) (waiting : Option OptionSpec) :
    List String → Except Stop Found
  | [] => if waiting.isSome then .error .usage else .ok found
  | argument :: rest =>
    match Token.ofText argument, waiting with
    | .word value, some o => do readOptions specs (← found.add o value) none rest
    | _, some _ => .error .usage
    | .word _, none => .error .usage
    | .escape, none => if rest.isEmpty then .ok found else .error .usage
    | .long name value, none => do
      let (found, waiting) ← readLong specs found name value
      readOptions specs found waiting rest
    | .short chars, none => do
      let (found, waiting) ← readCluster specs found chars
      readOptions specs found waiting rest

end Triplify.CommandLine
