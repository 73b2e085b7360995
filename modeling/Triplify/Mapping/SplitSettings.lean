import Triplify.Decimal.Read
import Triplify.Mapping.Node
import Triplify.Path
import Triplify.Text.Blank
import Triplify.Text.Casing
/-!
# Split settings

How large inputs are cut into chunks, and where the chunks and their outputs go.
-/

namespace Triplify.Mapping

/-- What the size of a chunk counts: elements, or thousands of bytes. -/
inductive SplitKind
  | elementCount
  | fileSize
deriving Repr, DecidableEq

/-- How to split an input. -/
structure SplitSettings where
  kind : SplitKind
  size : Nat
  inputDirectory : String
  outputDirectory : String
deriving Repr, DecidableEq

/-- Reads a kind, in any case and with white space around it. -/
def SplitKind.ofText (text : String) : Except MappingError SplitKind :=
  match Text.lowercase (Text.trim text) with
  | "elementcount" => .ok elementCount
  | "filesize" => .ok fileSize
  | other => .error (.split (.unknownKind other))

namespace SplitSettings

/-- Reads a size, which is a positive integer. -/
def sizeOf (text : String) : Except MappingError Nat :=
  match Decimal.unsigned64? (Text.trim text) with
  | some (n + 1) => .ok (n + 1)
  | _ => .error (.split (.badSize text))

/-- Reads the settings that a node holds. -/
def ofNode (n : Node) : Except MappingError SplitSettings :=
  match n.get? "type", n.get? "size" with
  | some kind, some size => do
    let kind ← SplitKind.ofText kind
    let size ← sizeOf size
    return ⟨kind, size, (n.get? "inputdirectoryname").getD "inputchunks",
      (n.get? "outputdirectoryname").getD "outputchunks"⟩
  | _, _ => .error (.split .missingAttributes)

/-- The directory for the chunks of an input, next to the input. -/
def inputChunks (s : SplitSettings) (input : String) : String :=
  Path.join ((Path.parent? input).getD ".") s.inputDirectory

/-- The directory for the outputs of chunks, inside of the output directory. -/
def outputChunks (s : SplitSettings) (output : String) : String :=
  Path.join output s.outputDirectory

end SplitSettings

end Triplify.Mapping
