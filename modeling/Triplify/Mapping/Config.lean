import Triplify.Mapping.SplitSettings
import Triplify.Name
import Triplify.Xml.Element
/-!
# Mapping configurations

A configuration is a tree of mapping nodes under one root, with the namespaces it declares and the
warnings that loading gave. `Config.ofText` loads one; `Config.validate` checks what is otherwise
looked at only when it is needed.
-/

namespace Triplify.Mapping

/-- A loaded configuration. -/
structure Config where
  root : Node
  namespaces : NamespaceTable
  warnings : List String

namespace Config

/-- The attributes of an element by name. -/
def attributesOf (e : Xml.Element) : List (String × String) :=
  e.attributes.map fun a => (a.name, a.value)

/-- The tag of an element inside of an element with another tag. Branches stand only in a switch. -/
def tagIn? (parent : Option Tag) (name : String) : Option Tag :=
  match Tag.ofName? name with
  | some .branch => if parent = some .switch then some .branch else none
  | some .fallback => if parent = some .switch then some .fallback else none
  | tag => tag

mutual

/-- The mapping node of an element. -/
def nodeOf (parent : Option Tag) : Xml.Element → Except MappingError Node
  | .mk name attributes children source =>
    match tagIn? parent name with
    | none => .error (.unrecognizedTag name source)
    | some tag => do
      let inner ← if tag.isOpaque then .ok [] else nodesOf (some tag) children
      return .mk tag name (attributes.map fun a => (a.name, a.value)) inner source

/-- The mapping nodes of elements. The first that has none fails. -/
def nodesOf (parent : Option Tag) : List Xml.Element → Except MappingError (List Node)
  | [] => .ok []
  | e :: rest => do
    let n ← nodeOf parent e
    let ns ← nodesOf parent rest
    return n :: ns

end

/-- The value of an attribute whose name has no label. -/
def plain? (e : Xml.Element) (name : String) : Option String :=
  (e.attributes.find? fun a => a.plain && a.name == name).map (·.value)

/-- The namespaces that the elements declare, on top of the standard ones, and warnings. -/
def namespacesOf (root : Xml.Element) : NamespaceTable × List String :=
  let blocks := root.children.filter fun e => Tag.ofName? e.name = some .namespaces
  if blocks.isEmpty then
    (.standard, ["<namespaces> has not been defined in config"])
  else
    (blocks.flatMap (·.children)).foldl (fun (table, warnings) e =>
      match plain? e "prefix", plain? e "uri" with
      | some label, some iri => (table.register label iri, warnings)
      | _, _ =>
        (table, warnings ++ ["missing prefix or uri attribute in <namespace> element"]))
      (.standard, [])

/-- Loads a configuration. -/
def ofText (text : String) : Except MappingError Config :=
  match Xml.Element.ofText? text with
  | none => .error (.xml .configuration)
  | some root =>
    if root.name.toList.map Char.toLower ≠ "config".toList then
      .error (.config (.rootElement root.name))
    else do
      let children ← nodesOf none root.children
      let (namespaces, warnings) := namespacesOf root
      return ⟨.mk .mapping root.name (attributesOf root) children root.source, namespaces, warnings⟩

/-- The first named mapping of a name. -/
def namedMapping? (c : Config) (name : String) : Option Node :=
  (c.root.childrenWith .namedMapping).find? fun n => n.get? "name" == some name

/-- The settings for splitting inputs. -/
def splitSettings (c : Config) : Except MappingError SplitSettings :=
  match c.root.childrenWith .split with
  | [] => .error (.split .noSettings)
  | n :: _ => SplitSettings.ofNode n

mutual

/-- Every use of a named mapping inside of a node names one that exists. -/
def checkUses (c : Config) : Node → Except MappingError Unit
  | .mk tag name attributes children source => do
    if tag = .useNamedMapping then
      let used ← (Node.mk tag name attributes children source).require "name"
      if (c.namedMapping? used).isNone then .error (.missingNamedMapping used)
    checkAllUses c children

/-- Every use of a named mapping inside of the nodes names one that exists. -/
def checkAllUses (c : Config) : List Node → Except MappingError Unit
  | [] => .ok ()
  | n :: rest => do
    checkUses c n
    checkAllUses c rest

end

/-- Checks the split settings, if there are any, and the uses of named mappings. -/
def validate (c : Config) : Except MappingError Unit := do
  if !(c.root.childrenWith .split).isEmpty then
    let _ ← c.splitSettings
  checkAllUses c c.root.children

end Config

end Triplify.Mapping
