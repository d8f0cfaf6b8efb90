import ServiceAnnotations.Command.Flags
import ServiceAnnotations.Command.Log
import ServiceAnnotations.Command.Packages
import ServiceAnnotations.Command.Run
import ServiceAnnotations.Companion.File
import ServiceAnnotations.Companion.Render
import ServiceAnnotations.Companion.Shape
import ServiceAnnotations.Elements.Comment
import ServiceAnnotations.Elements.Error
import ServiceAnnotations.Elements.Listing
import ServiceAnnotations.Elements.Model
import ServiceAnnotations.Elements.Scan
import ServiceAnnotations.Elements.Value
import ServiceAnnotations.Files.Path
import ServiceAnnotations.Files.Tree
import ServiceAnnotations.Main
import ServiceAnnotations.Mark.Basic
import ServiceAnnotations.Mark.Lexer
import ServiceAnnotations.Mark.Literal
import ServiceAnnotations.Mark.Parser
import ServiceAnnotations.Mark.Position
import ServiceAnnotations.Mark.Token
import ServiceAnnotations.Numeric.Rounding
import ServiceAnnotations.Numeric.Shortest
import ServiceAnnotations.Processing.Generators
import ServiceAnnotations.Processing.Plugins
import ServiceAnnotations.Processing.Report
import ServiceAnnotations.Processing.Run
import ServiceAnnotations.Processing.Session
import ServiceAnnotations.Registry.Diagnostic
import ServiceAnnotations.Registry.Element
import ServiceAnnotations.Registry.Host
import ServiceAnnotations.Registry.Index
import ServiceAnnotations.Registry.MemoryHost
import ServiceAnnotations.Registry.Registrar
import ServiceAnnotations.Registry.ServiceFile
import ServiceAnnotations.Settings.Basic
import ServiceAnnotations.Settings.Document
import ServiceAnnotations.Settings.Encoding
import ServiceAnnotations.Settings.Eval
import ServiceAnnotations.Settings.Load
import ServiceAnnotations.Settings.Number
import ServiceAnnotations.Settings.Parser
import ServiceAnnotations.Settings.Reader
import ServiceAnnotations.Settings.Template
import ServiceAnnotations.Settings.Type
import ServiceAnnotations.Settings.Value
import ServiceAnnotations.Source.Complaint
import ServiceAnnotations.Source.Docs
import ServiceAnnotations.Source.Grammar
import ServiceAnnotations.Source.Parser
import ServiceAnnotations.Source.Place
import ServiceAnnotations.Source.Reader
import ServiceAnnotations.Source.Survey
import ServiceAnnotations.Source.Token
import ServiceAnnotations.Source.Tree
import ServiceAnnotations.Text.Attached
import ServiceAnnotations.Text.Blank
import ServiceAnnotations.Text.ByteMap
import ServiceAnnotations.Text.Bytes
import ServiceAnnotations.Text.Case
import ServiceAnnotations.Text.CharRange
import ServiceAnnotations.Text.Decomposition
import ServiceAnnotations.Text.FirstLetter
import ServiceAnnotations.Text.Letter
import ServiceAnnotations.Text.MarkClass
import ServiceAnnotations.Text.Name
import ServiceAnnotations.Text.Normal
import ServiceAnnotations.Text.Printable
import ServiceAnnotations.Text.Quoted
import ServiceAnnotations.Text.Utf8
import ServiceAnnotations.Types.Basic
import ServiceAnnotations.Types.Comparable
import ServiceAnnotations.Types.Constant
import ServiceAnnotations.Types.Evaluate
import ServiceAnnotations.Types.Implements
import ServiceAnnotations.Types.Infer
import ServiceAnnotations.Types.Load
import ServiceAnnotations.Types.Lookup
import ServiceAnnotations.Types.Operand
import ServiceAnnotations.Types.Program
import ServiceAnnotations.Types.Resolve
import ServiceAnnotations.Types.Scope
import ServiceAnnotations.Types.Settle
import ServiceAnnotations.Types.Sizes
import ServiceAnnotations.Types.Subtype
import ServiceAnnotations.Types.Unify
import ServiceAnnotations.Types.View
import ServiceAnnotations.Proofs.Except
import ServiceAnnotations.Proofs.Registry.Step
import ServiceAnnotations.Proofs.Text.ByteMap
import ServiceAnnotations.Proofs.Registry.Store
import ServiceAnnotations.Proofs.Registry.Emission
import ServiceAnnotations.Proofs.Registry.Offer
import ServiceAnnotations.Proofs.Registry.Collection
import ServiceAnnotations.Proofs.Registry.ServiceFile
import ServiceAnnotations.Proofs.Registry.Reliable
import ServiceAnnotations.Proofs.Registry.Rerun
import ServiceAnnotations.Proofs.Mark.Grammar
import ServiceAnnotations.Proofs.Mark.Lexer
import ServiceAnnotations.Proofs.Mark.Soundness
import ServiceAnnotations.Proofs.Mark.Completeness
import ServiceAnnotations.Proofs.Registry.Delivery
import ServiceAnnotations.Proofs.Registry.Lifecycle
import ServiceAnnotations.Proofs.Source.Docs
import ServiceAnnotations.Proofs.Elements.Scan
import ServiceAnnotations.Proofs.Registry.Retention
import ServiceAnnotations.Proofs.Elements.Confinement
import ServiceAnnotations.Proofs.Processing.Isolation
import ServiceAnnotations.Proofs.Types.Unification
import ServiceAnnotations.Proofs.Types.Lookup
import ServiceAnnotations.Proofs.Types.Erasure
import ServiceAnnotations.Proofs.Processing.Copies
import ServiceAnnotations.Proofs.Processing.Refresh
import ServiceAnnotations.Proofs.Processing.Rereading
import ServiceAnnotations.Proofs.Types.Matching
import ServiceAnnotations.Proofs.Registry.Notes
import ServiceAnnotations.Proofs.Processing.Calls
import ServiceAnnotations.Proofs.Mark.Places
import ServiceAnnotations.Proofs.Elements.Extraction
import ServiceAnnotations.Proofs.Mark.Lookahead
import ServiceAnnotations.Proofs.Mark.Numerals
import ServiceAnnotations.Proofs.Mark.Spelling
import ServiceAnnotations.Proofs.Mark.Yield
import ServiceAnnotations.Proofs.Mark.Runs
import ServiceAnnotations.Proofs.Mark.Tiling
import ServiceAnnotations.Proofs.Mark.Relocation
import ServiceAnnotations.Proofs.Mark.Accepted
import ServiceAnnotations.Proofs.Mark.Joining
import ServiceAnnotations.Proofs.Mark.Brackets
import ServiceAnnotations.Proofs.Mark.Layout
import ServiceAnnotations.Proofs.Elements.Shorthand
import ServiceAnnotations.Proofs.Mark.Refusal
import ServiceAnnotations.Proofs.Mark.Located
import ServiceAnnotations.Proofs.Source.Spots
import ServiceAnnotations.Proofs.Elements.Lines
import ServiceAnnotations.Proofs.Elements.Openings
import ServiceAnnotations.Proofs.Elements.Columns
import ServiceAnnotations.Proofs.Elements.Fields
import ServiceAnnotations.Proofs.Processing.Handling
import ServiceAnnotations.Proofs.Registry.Occurrences
import ServiceAnnotations.Proofs.Registry.Suppression
import ServiceAnnotations.Proofs.Elements.Types
import ServiceAnnotations.Proofs.Text.FirstLetter
import ServiceAnnotations.Proofs.Processing.Portions
import ServiceAnnotations.Proofs.Processing.SetterNames
import ServiceAnnotations.Proofs.Processing.ViewNames
import ServiceAnnotations.Proofs.Text.Bytes
import ServiceAnnotations.Proofs.Registry.Nesting
import ServiceAnnotations.Proofs.Registry.Concatenation
import ServiceAnnotations.Proofs.Source.Words
import ServiceAnnotations.Proofs.Source.Readers
import ServiceAnnotations.Proofs.Elements.Identity
import ServiceAnnotations.Proofs.Text.Quoted
import ServiceAnnotations.Proofs.Source.Pieces
import ServiceAnnotations.Proofs.Companion.Formatting
import ServiceAnnotations.Proofs.Processing.Formatting
import ServiceAnnotations.Proofs.Command.Packages
import ServiceAnnotations.Proofs.Command.Flags
import ServiceAnnotations.Proofs.Command.Expansion
import ServiceAnnotations.Proofs.Settings.Overrides
import ServiceAnnotations.Proofs.Command.Precedence
import ServiceAnnotations.Proofs.Elements.Listing
import ServiceAnnotations.Proofs.Registry.Rows
