/-!
# Errors

Why a configuration, a document or a single mapping step can fail, and the text that reports it.
Only an error that the configuration itself raises is fatal: it ends the mapping of a document.
-/

namespace Triplify

/-- What an XML text was meant to be. -/
inductive XmlRole
  | configuration
  | input
deriving Repr, DecidableEq

/-- What is wrong with a configuration or a setting. -/
inductive ConfigFault
  | rootElement (name : String)
  | elseWithoutIf (name : String)
  | caseWithoutTest (name fragment : String)
  | severalDefaults (name : String)
  | unknownFormat (text : String)
  | badPattern (pattern : String)
deriving Repr, DecidableEq

/-- What is wrong with a path expression. -/
inductive PathFault
  | notCompiled (expr : String)
  | noExpression (expr : String)
  | notEvaluated (expr : String)
  | notNodes (expr value : String)
deriving Repr, DecidableEq

/-- What is wrong with splitting an input. -/
inductive SplitFault
  | noSettings
  | missingAttributes
  | unknownKind (kind : String)
  | badSize (size : String)
  | notAFile (path : String)
  | noName (path : String)
  | notOpened (path : String)
  | noChunkDirectory
  | notWritten (path : String)
  | noRoot
  | unclosedRoot
  | malformed
deriving Repr, DecidableEq

/-- What is wrong with carrying out a mapping or handling its files. -/
inductive ProcessingFault
  | tooDeep (limit : Nat) (name : String)
  | unknownHandle (handle : Nat)
  | languageTag (tag : String)
  | notRead (path : String)
  | noName (path : String)
  | noOutputDirectory
  | notCreated (path : String)
  | noInput (path : String)
deriving Repr, DecidableEq

/-- The type that the text of an attribute should have. -/
inductive AttributeType
  | boolean
  | integer
deriving Repr, DecidableEq

/-- The causes of failure. -/
inductive MappingError
  | io
  | json
  | xml (role : XmlRole)
  | config (fault : ConfigFault)
  | missingAttribute (name fragment : String)
  | unknownTransform (name : String)
  | noMatch (placeholder name template : String)
  | multipleMatches (placeholder name template : String)
  | tooFewValues (name template : String) (min found : Nat)
  | tooManyValues (name template : String) (max found : Nat)
  | unrecognizedTag (tag fragment : String)
  | missingNamedMapping (name : String)
  | unknownCounter (name : String)
  | unknownIdentifier (name : String)
  | badAttribute (tag name value : String) (expected : AttributeType)
  | userDefined (message : String)
  | path (fault : PathFault)
  | invalidQualifiedName (text : String)
  | unboundLabel (label : String)
  | invalidIri (text : String)
  | noSubject (tag : String)
  | undeclarable (label : String)
  | split (fault : SplitFault)
  | processing (fault : ProcessingFault)
deriving Repr, DecidableEq

/-- The words for the role of an XML text. -/
def XmlRole.text : XmlRole → String
  | configuration => "mapping configuration"
  | input => "input document"

/-- The words for a fault of a configuration. -/
def ConfigFault.message : ConfigFault → String
  | rootElement name => s!"root element must be <config>, found <{name}>"
  | elseWithoutIf name => s!"<{name}> must directly follow an <if>"
  | caseWithoutTest name fragment =>
    s!"<{name}> must have a match=\"\x7bxpath\x7d\" or value=\"...\" attribute in: {fragment}"
  | severalDefaults name => s!"<{name}> must not contain more than one <default>"
  | unknownFormat text =>
    s!"unknown output format '{text}' [expected: rdf, ttl, n3, trig, nt, nq]"
  | badPattern pattern => s!"invalid replace pattern '{pattern}' in transform bundle"

/-- The words for a fault of a path expression. -/
def PathFault.message : PathFault → String
  | notCompiled expr => s!"cannot compile '{expr}'"
  | noExpression expr => s!"'{expr}' is not a path expression"
  | notEvaluated expr => s!"cannot evaluate '{expr}'"
  | notNodes expr value => s!"'{expr}' does not select nodes (got {value})"

/-- The words for a fault in splitting. -/
def SplitFault.message : SplitFault → String
  | noSettings => "no <split> element defined in config"
  | missingAttributes => "type and size attributes must be defined for <split>"
  | unknownKind kind => s!"unrecognized split type '{kind}': must be elementcount or filesize"
  | badSize size => s!"size '{size}' is not a positive integer"
  | notAFile path => s!"splitting needs a single input file, got {path}"
  | noName path => s!"cannot name chunks of \"{path}\""
  | notOpened path => s!"Failed to open {path} for splitting"
  | noChunkDirectory => "Failed to create chunk directory"
  | notWritten path => s!"Failed to write chunk {path}"
  | noRoot => "input has no root element"
  | unclosedRoot => "input ended before the root element was closed"
  | malformed => "malformed input"

/-- The words for a fault in carrying out a mapping. -/
def ProcessingFault.message : ProcessingFault → String
  | tooDeep limit name =>
    s!"mapping nesting exceeds {limit} levels at <{name}>; check for a named mapping that uses itself"
  | unknownHandle handle => s!"unknown subject handle {handle}"
  | languageTag tag => s!"invalid language tag '{tag}'"
  | notRead path => s!"Failed to read {path}"
  | noName path => s!"Cannot name output for \"{path}\""
  | noOutputDirectory => "Failed to create output directory"
  | notCreated path => s!"Failed to create {path}"
  | noInput path => s!"Input file or directory does not exist: {path}"

/-- The words for the type of an attribute. -/
def AttributeType.text : AttributeType → String
  | boolean => "a boolean (true|false)"
  | integer => "an integer"

namespace MappingError

/-- The text that reports an error. -/
def message : MappingError → String
  | io => "IO error"
  | json => "JSON error"
  | xml role => s!"XML parse error: {role.text}"
  | config fault => s!"Invalid config: {fault.message}"
  | missingAttribute name fragment =>
    s!"Missing attribute {name}=\"...\" in: {fragment}"
  | unknownTransform name =>
    s!"Modifier function modifier={name} does not exist. If it is custom, verify that its provider has been registered"
  | noMatch placeholder name template =>
    s!"No match for {placeholder} in {name}=\"{template}\""
  | multipleMatches placeholder name template =>
    s!"Multiple matches for {placeholder} in {name}=\"{template}\""
  | tooFewValues name template min found =>
    s!"Unable to match {name}=\"{template}\": found {found} value(s), expected at least {min}"
  | tooManyValues name template max found =>
    s!"Too many values for {name}=\"{template}\": found {found}, expected at most {max}"
  | unrecognizedTag tag fragment => s!"Cannot identify tag <{tag}> in: {fragment}"
  | missingNamedMapping name =>
    s!"No named mapping was found for: {name}. A <namedmapping> must be defined directly under <config>"
  | unknownCounter name => s!"No counter named '{name}' exists"
  | unknownIdentifier name => s!"No unique identifier named '{name}' exists"
  | badAttribute tag name value expected =>
    s!"Attribute @{name} in <{tag}> has invalid value '{value}': expected {expected.text}"
  | userDefined message => s!"User specified error: {message}"
  | path fault => s!"Path evaluation error: {fault.message}"
  | invalidQualifiedName text => s!"Invalid qualified name '{text}': expected 'prefix:localname'"
  | unboundLabel label => s!"Unknown namespace prefix '{label}'"
  | invalidIri text => s!"Invalid IRI '{text}'"
  | noSubject tag => s!"<{tag}> used outside of a <resource> or <bnode>"
  | undeclarable label => s!"Serialization error: cannot declare prefix '{label}'"
  | split fault => s!"Split error: {fault.message}"
  | processing fault => s!"Processing error: {fault.message}"

/-- Errors raised by the configuration end the mapping of a document; all others are recorded, and
the mapping goes on with the next sibling. -/
def isFatal : MappingError → Bool
  | userDefined _ => true
  | _ => false

end MappingError

end Triplify
