import Triplify.Name
/-!
# Terms and statements

The terms of RDF and statements about them. Blank nodes are numbered.
-/

namespace Triplify.Rdf

/-- The namespace of the datatypes of XML Schema. -/
def schemaNamespace : String := "http://www.w3.org/2001/XMLSchema#"

/-- The predicate that gives the class of a subject. -/
def typeIri : String := rdfNamespace ++ "type"

/-- A subject: an IRI or a blank node. -/
inductive Subject
  | iri (iri : String)
  | blank (id : Nat)
deriving Repr, DecidableEq, Inhabited

/-- What a literal has besides its text. -/
inductive LiteralType
  | plain
  | typed (datatype : String)
  | tagged (language : String)
deriving Repr, DecidableEq

/-- A literal. -/
structure Literal where
  text : String
  type : LiteralType
deriving Repr, DecidableEq

/-- A literal of a datatype. Texts are plain. -/
def Literal.ofType (text datatype : String) : Literal :=
  if datatype == schemaNamespace ++ "string" then ⟨text, .plain⟩ else ⟨text, .typed datatype⟩

/-- An object: a subject or a literal. -/
inductive Term
  | node (s : Subject)
  | literal (l : Literal)
deriving Repr, DecidableEq

/-- A statement. -/
structure Triple where
  subject : Subject
  predicate : String
  object : Term
deriving Repr, DecidableEq

/-- A statement in the default graph or in a named graph. -/
structure Quad extends Triple where
  graph : Option String
deriving Repr, DecidableEq

/-- The blank nodes of a statement, the subject first. -/
def Triple.blanks (t : Triple) : List Nat :=
  (match t.subject with
    | .blank n => [n]
    | .iri _ => []) ++
  (match t.object with
    | .node (.blank n) => [n]
    | _ => [])

/-- Each element of a list once, at its first place. -/
def firstSeen (ids : List Nat) : List Nat :=
  (ids.foldl (fun (seen : List Nat) n => if seen.contains n then seen else n :: seen) []).reverse

/-- A subject with another number. -/
def Subject.renumber (f : Nat → Nat) : Subject → Subject
  | iri s => iri s
  | blank n => blank (f n)

/-- A statement with other numbers of blank nodes. -/
def Triple.renumber (f : Nat → Nat) (t : Triple) : Triple :=
  { t with
    subject := t.subject.renumber f
    object := match t.object with
      | .node s => .node (s.renumber f)
      | .literal l => .literal l }

/-- The statements with their blank nodes numbered in the order in which they appear. -/
def numbered (quads : List Quad) : List Quad :=
  let order := firstSeen (quads.flatMap (·.blanks))
  quads.map fun q => { q with toTriple := q.toTriple.renumber fun n => order.idxOf n }

/-- The same for statements without their graphs. -/
def numberedTriples (triples : List Triple) : List Triple :=
  let order := firstSeen (triples.flatMap Triple.blanks)
  triples.map (Triple.renumber fun n => order.idxOf n)

end Triplify.Rdf
