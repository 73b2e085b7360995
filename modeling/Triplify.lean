import Triplify.Attribute
import Triplify.Batch
import Triplify.CommandLine.Command
import Triplify.CommandLine.Execute
import Triplify.CommandLine.Options
import Triplify.CommandLine.Sample
import Triplify.Date.Calendar
import Triplify.Date.Pattern
import Triplify.Decimal.Binary
import Triplify.Decimal.Read
import Triplify.Decimal.Shortest
import Triplify.Decimal.Text
import Triplify.Diagnostics
import Triplify.Digest
import Triplify.Error
import Triplify.FileSystem
import Triplify.FileSystem.Tree
import Triplify.Format
import Triplify.Graph
import Triplify.Iri.Parts
import Triplify.Iri.Resolve
import Triplify.Json
import Triplify.Main
import Triplify.Mapping.Config
import Triplify.Mapping.Document
import Triplify.Mapping.Interpreter
import Triplify.Mapping.Node
import Triplify.Mapping.Run
import Triplify.Mapping.SplitSettings
import Triplify.Mapping.Values
import Triplify.Name
import Triplify.Path
import Triplify.Proofs.Batch.Document
import Triplify.Proofs.Batch.Files
import Triplify.Proofs.Batch.Output
import Triplify.Proofs.Batch.Reports
import Triplify.Proofs.Batch.Tree
import Triplify.Proofs.Date.Named
import Triplify.Proofs.Date.Schema
import Triplify.Proofs.Date.Year
import Triplify.Proofs.FileSystem.Below
import Triplify.Proofs.FileSystem.Tree
import Triplify.Proofs.Graph.Atomic
import Triplify.Proofs.Graph.Deed
import Triplify.Proofs.Graph.Format
import Triplify.Proofs.Graph.Growth
import Triplify.Proofs.Graph.Iris
import Triplify.Proofs.Graph.Log
import Triplify.Proofs.Graph.Slots
import Triplify.Proofs.Name.Shorten
import Triplify.Proofs.Registry.Fresh
import Triplify.Proofs.Registry.History
import Triplify.Proofs.Registry.Reading
import Triplify.Proofs.Sanitize.Literal
import Triplify.Proofs.Sanitize.Settled
import Triplify.Proofs.Sanitize.Slashes
import Triplify.Proofs.Split.Document
import Triplify.Proofs.Split.Greedy
import Triplify.Proofs.Split.Partition
import Triplify.Proofs.Split.Remainder
import Triplify.Proofs.Split.Reread
import Triplify.Proofs.Split.Scan
import Triplify.Proofs.Table
import Triplify.Proofs.Template.Agreement
import Triplify.Proofs.Template.Rendering
import Triplify.Proofs.Template.Scan
import Triplify.Proofs.Template.Unclosed
import Triplify.Proofs.Template.Values
import Triplify.Proofs.Walk.Account
import Triplify.Proofs.Walk.Act
import Triplify.Proofs.Walk.Blank
import Triplify.Proofs.Walk.Branches
import Triplify.Proofs.Walk.Calls
import Triplify.Proofs.Walk.Cases
import Triplify.Proofs.Walk.Exit
import Triplify.Proofs.Walk.Fallbacks
import Triplify.Proofs.Walk.Follow
import Triplify.Proofs.Walk.Handles
import Triplify.Proofs.Walk.Identity
import Triplify.Proofs.Walk.Image
import Triplify.Proofs.Walk.Inline
import Triplify.Proofs.Walk.Inlining
import Triplify.Proofs.Walk.Literals
import Triplify.Proofs.Walk.Matches
import Triplify.Proofs.Walk.Mirror
import Triplify.Proofs.Walk.Moment
import Triplify.Proofs.Walk.NamedOnce
import Triplify.Proofs.Walk.Nesting
import Triplify.Proofs.Walk.Otherwise
import Triplify.Proofs.Walk.Outline
import Triplify.Proofs.Walk.Place
import Triplify.Proofs.Walk.Placed
import Triplify.Proofs.Walk.Prompt
import Triplify.Proofs.Walk.Recoverable
import Triplify.Proofs.Walk.Registers
import Triplify.Proofs.Walk.Relation
import Triplify.Proofs.Walk.Removal
import Triplify.Proofs.Walk.Report
import Triplify.Proofs.Walk.Script
import Triplify.Proofs.Walk.Step
import Triplify.Proofs.Walk.Subjects
import Triplify.Proofs.Walk.Switch
import Triplify.Proofs.Walk.Uses
import Triplify.Proofs.Walk.Walk
import Triplify.Proofs.Walk.Watch
import Triplify.Proofs.Walk.Without
import Triplify.Proofs.XPath.Order
import Triplify.Proofs.XPath.Reading
import Triplify.Proofs.Xml.Bindings
import Triplify.Proofs.Xml.Building
import Triplify.Proofs.Xml.DepthFirst
import Triplify.Proofs.Xml.Elements
import Triplify.Rdf.LanguageTag
import Triplify.Rdf.NQuads
import Triplify.Rdf.RdfXml
import Triplify.Rdf.Term
import Triplify.Rdf.Turtle
import Triplify.Regex.Match
import Triplify.Regex.Parse
import Triplify.Regex.Property
import Triplify.Regex.Replace
import Triplify.Regex.Syntax
import Triplify.Registry
import Triplify.Sanitize
import Triplify.Serialize
import Triplify.Split.Chunk
import Triplify.Split.Event
import Triplify.Template
import Triplify.Text.Blank
import Triplify.Text.Casing
import Triplify.Text.Casing.Table
import Triplify.Text.Category
import Triplify.Text.Category.Table
import Triplify.Text.CodeSet
import Triplify.Text.Script.Table
import Triplify.Text.Search
import Triplify.Transform
import Triplify.Transform.Bundle
import Triplify.Transform.Collections
import Triplify.XPath.Axes
import Triplify.XPath.Eval
import Triplify.XPath.Expr
import Triplify.XPath.Function
import Triplify.XPath.Parse
import Triplify.XPath.Token
import Triplify.XPath.Value
import Triplify.Xml.Document
import Triplify.Xml.Element
import Triplify.Xml.Markup
import Triplify.Xml.Name
import Triplify.Xml.Namespaces
