import FrontEnd.Build.Link
import FrontEnd.Build.Module
import FrontEnd.Build.Report
import FrontEnd.Build.Session
import FrontEnd.Declaration.Definition
import FrontEnd.Declaration.Error
import FrontEnd.Declaration.Exports
import FrontEnd.Declaration.Pass
import FrontEnd.Declaration.Scope
import FrontEnd.Declaration.Template
import FrontEnd.Diagnostic.Basic
import FrontEnd.Diagnostic.Code
import FrontEnd.Diagnostic.Queue
import FrontEnd.Diagnostic.Render
import FrontEnd.Fault
import FrontEnd.Item.Arena
import FrontEnd.Item.Kind
import FrontEnd.Item.Locator
import FrontEnd.Item.Operator
import FrontEnd.Item.Payload
import FrontEnd.Item.Roles
import FrontEnd.Item.Tree
import FrontEnd.Item.View
import FrontEnd.Module.Graph
import FrontEnd.Module.Stamp
import FrontEnd.Module.Syntax
import FrontEnd.Name.Basic
import FrontEnd.Name.Interner
import FrontEnd.Outline.Basic
import FrontEnd.Outline.Build
import FrontEnd.Outline.Item
import FrontEnd.Outline.Source
import FrontEnd.Outline.Spelling
import FrontEnd.Outline.Token
import FrontEnd.Outline.Typing
import FrontEnd.Source.File
import FrontEnd.Source.Id
import FrontEnd.Source.Location
import FrontEnd.Source.Path
import FrontEnd.Source.Registry
import FrontEnd.Source.Store
import FrontEnd.Spelling.Basic
import FrontEnd.Spelling.Reader
import FrontEnd.Text.Blank
import FrontEnd.Text.Integer
import FrontEnd.Text.Quoted
import FrontEnd.Text.Unseen
import FrontEnd.Token.Basic
import FrontEnd.Token.Kind
import FrontEnd.Token.Span
import FrontEnd.Token.Stream
import FrontEnd.Typing.Argument
import FrontEnd.Typing.Context
import FrontEnd.Typing.Conversion
import FrontEnd.Typing.Definition
import FrontEnd.Typing.Error
import FrontEnd.Typing.Form
import FrontEnd.Typing.Id
import FrontEnd.Typing.Inheritance
import FrontEnd.Typing.Layout
import FrontEnd.Typing.Overload
import FrontEnd.Typing.Pool
import FrontEnd.Typing.Qualifiers
import FrontEnd.Typing.Registry
import FrontEnd.Typing.Report
import FrontEnd.Typing.Specialization
import FrontEnd.Typing.Template
import FrontEnd.Typing.Text
import FrontEnd.Proofs.Typing.Pool
import FrontEnd.Proofs.Typing.Registry
import FrontEnd.Proofs.Specialization.Steps
import FrontEnd.Proofs.Specialization.Growth
import FrontEnd.Proofs.Specialization.Request
import FrontEnd.Proofs.Specialization.Defaults
import FrontEnd.Proofs.Typing.History
import FrontEnd.Proofs.Renaming.Basic
import FrontEnd.Proofs.Renaming.Data
import FrontEnd.Proofs.Specialization.Cache
import FrontEnd.Proofs.Renaming.Template
import FrontEnd.Proofs.Renaming.Request
import FrontEnd.Proofs.Renaming.Tables
import FrontEnd.Proofs.Renaming.Stated
import FrontEnd.Proofs.Renaming.Context
import FrontEnd.Proofs.Renaming.Specialization
import FrontEnd.Proofs.Renaming.History
import FrontEnd.Proofs.Specialization.Failure
import FrontEnd.Proofs.Specialization.Denotation
import FrontEnd.Proofs.Specialization.Meaning
import FrontEnd.Proofs.Specialization.Making
import FrontEnd.Proofs.Specialization.Tables
import FrontEnd.Proofs.Specialization.Upkeep
import FrontEnd.Proofs.Declaration.Reading
import FrontEnd.Proofs.Declaration.Translation
import FrontEnd.Proofs.Declaration.Class
import FrontEnd.Proofs.Declaration.Faultless
import FrontEnd.Proofs.Declaration.Instance
import FrontEnd.Proofs.Declaration.Expression
import FrontEnd.Proofs.Declaration.Pass
import FrontEnd.Proofs.Declaration.ClassTemplate
import FrontEnd.Proofs.Module.Levels
import FrontEnd.Proofs.Diagnostic.Queue
import FrontEnd.Proofs.Declaration.Pushes
import FrontEnd.Proofs.Build.Linking
import FrontEnd.Proofs.Build.Parsing
import FrontEnd.Proofs.Build.Settling
import FrontEnd.Proofs.Build.Declaring
import FrontEnd.Proofs.Build.Readiness
import FrontEnd.Proofs.Layout.Derivation
import FrontEnd.Proofs.Layout.Measure
import FrontEnd.Proofs.Layout.Memory
import FrontEnd.Proofs.Token.Codec
import FrontEnd.Proofs.Layout.Exactness
import FrontEnd.Proofs.Layout.Limits
import FrontEnd.Proofs.Typing.Identity
import FrontEnd.Proofs.Typing.Numbering
import FrontEnd.Proofs.Item.Forest
import FrontEnd.Proofs.Item.Tree
import FrontEnd.Proofs.Item.Arena
import FrontEnd.Proofs.Item.Determinism
import FrontEnd.Proofs.Specialization.Lockstep
import FrontEnd.Proofs.Declaration.Agreement
import FrontEnd.Proofs.Declaration.Nominal
import FrontEnd.Proofs.Build.Names
import FrontEnd.Proofs.Text.Integer
import FrontEnd.Proofs.Spelling.Reader
import FrontEnd.Proofs.Specialization.Keys
import FrontEnd.Proofs.Typing.Text
import FrontEnd.Proofs.Declaration.Roundtrip
import FrontEnd.Proofs.Declaration.Primitives
import FrontEnd.Proofs.Name.Interner
import FrontEnd.Proofs.Build.Silence
import FrontEnd.Proofs.Specialization.Settled
import FrontEnd.Proofs.Renaming.Ahead
import FrontEnd.Proofs.Specialization.Independence
import FrontEnd.Proofs.Spelling.Grammar
import FrontEnd.Proofs.Specialization.Limit
import FrontEnd.Proofs.Build.Bodies
import FrontEnd.Proofs.Declaration.Reordering
import FrontEnd.Proofs.Declaration.Declared
import FrontEnd.Proofs.Declaration.Ending
import FrontEnd.Proofs.Declaration.Overtaking
import FrontEnd.Proofs.Declaration.Order
import FrontEnd.Proofs.Declaration.Again
import FrontEnd.Proofs.Declaration.Mirror
import FrontEnd.Proofs.Declaration.Pursuit
import FrontEnd.Proofs.Declaration.Trailing
import FrontEnd.Proofs.Typing.DepthFirst
import FrontEnd.Proofs.Typing.Inheritance
import FrontEnd.Proofs.Token.Placement
import FrontEnd.Proofs.Source.Lines
import FrontEnd.Proofs.Source.Registry
import FrontEnd.Proofs.Source.Addressing
import FrontEnd.Proofs.Source.Position
import FrontEnd.Proofs.Module.Cycle
import FrontEnd.Proofs.Build.Cycles
import FrontEnd.Proofs.Overload.Conversion
import FrontEnd.Proofs.Overload.Ranking
import FrontEnd.Proofs.Overload.Resolution
import FrontEnd.Proofs.Overload.ExactMatch
import FrontEnd.Proofs.Typing.MemberLookup
import FrontEnd.Proofs.Overload.MethodCall
import FrontEnd.Proofs.Diagnostic.Selection
import FrontEnd.Proofs.Diagnostic.Digest
import FrontEnd.Proofs.Diagnostic.Repetition
import FrontEnd.Proofs.Typing.InPlace
import FrontEnd.Proofs.Typing.Definitions
import FrontEnd.Proofs.Source.Stored
import FrontEnd.Proofs.Source.Store
import FrontEnd.Proofs.Source.Calls
import FrontEnd.Proofs.Item.Iteration
import FrontEnd.Proofs.Item.Locator
import FrontEnd.Proofs.Typing.Flags
import FrontEnd.Proofs.Token.Spans
import FrontEnd.Proofs.Specialization.Concrete
