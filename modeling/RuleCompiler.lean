import RuleCompiler.Artifact.Basic
import RuleCompiler.Artifact.Persist
import RuleCompiler.Binary64.Basic
import RuleCompiler.Binary64.Decimal
import RuleCompiler.Binary64.Shortest
import RuleCompiler.Capability
import RuleCompiler.Collection
import RuleCompiler.CommandLine.Arguments
import RuleCompiler.CommandLine.Help
import RuleCompiler.CommandLine.Run
import RuleCompiler.CommandLine.Stamp
import RuleCompiler.Compilation.Basic
import RuleCompiler.Compilation.Destination
import RuleCompiler.Compilation.Report
import RuleCompiler.Compilation.Run
import RuleCompiler.Config.Destination
import RuleCompiler.Config.Load
import RuleCompiler.Config.Project
import RuleCompiler.Diagnostic
import RuleCompiler.Digest.Sha256
import RuleCompiler.Document.Basic
import RuleCompiler.Document.Markdown
import RuleCompiler.FileTree.Action
import RuleCompiler.FileTree.Basic
import RuleCompiler.FileTree.Change
import RuleCompiler.FileTree.Locate
import RuleCompiler.Handshake
import RuleCompiler.Json.Reader
import RuleCompiler.Json.Writer
import RuleCompiler.KeyedList
import RuleCompiler.Log
import RuleCompiler.Main
import RuleCompiler.Partial.Discovery
import RuleCompiler.Path.Basic
import RuleCompiler.Path.Output
import RuleCompiler.Proofs.Artifact.Again
import RuleCompiler.Proofs.Artifact.Calls
import RuleCompiler.Proofs.Artifact.Contract
import RuleCompiler.Proofs.Artifact.InTurn
import RuleCompiler.Proofs.Artifact.Onward
import RuleCompiler.Proofs.Artifact.Persist
import RuleCompiler.Proofs.Collection
import RuleCompiler.Proofs.Collection.Anonymous
import RuleCompiler.Proofs.Collection.Paths
import RuleCompiler.Proofs.Collection.Permutation
import RuleCompiler.Proofs.CommandLine.Arguments
import RuleCompiler.Proofs.CommandLine.Run
import RuleCompiler.Proofs.Compilation.Accounting
import RuleCompiler.Proofs.Compilation.Again
import RuleCompiler.Proofs.Compilation.ArrivalOrder
import RuleCompiler.Proofs.Compilation.Calls
import RuleCompiler.Proofs.Compilation.Delivery
import RuleCompiler.Proofs.Compilation.Isolation
import RuleCompiler.Proofs.Compilation.Outcome
import RuleCompiler.Proofs.Compilation.Overrides
import RuleCompiler.Proofs.Compilation.Partials
import RuleCompiler.Proofs.Compilation.Run
import RuleCompiler.Proofs.Compilation.Stages
import RuleCompiler.Proofs.Compilation.Untemplated
import RuleCompiler.Proofs.Config.Destination
import RuleCompiler.Proofs.Config.Merge
import RuleCompiler.Proofs.Config.Nested
import RuleCompiler.Proofs.Document.Frontmatter
import RuleCompiler.Proofs.Document.Reading
import RuleCompiler.Proofs.FileTree.Abreast
import RuleCompiler.Proofs.FileTree.Action
import RuleCompiler.Proofs.FileTree.Follow
import RuleCompiler.Proofs.FileTree.Growth
import RuleCompiler.Proofs.FileTree.Links
import RuleCompiler.Proofs.FileTree.Locate
import RuleCompiler.Proofs.FileTree.Passage
import RuleCompiler.Proofs.FileTree.Put
import RuleCompiler.Proofs.FileTree.Straight
import RuleCompiler.Proofs.FileTree.Way
import RuleCompiler.Proofs.FirstOccurrence
import RuleCompiler.Proofs.KeyedList
import RuleCompiler.Proofs.Partial.Discovery
import RuleCompiler.Proofs.Path
import RuleCompiler.Proofs.Path.FileName
import RuleCompiler.Proofs.Path.Label
import RuleCompiler.Proofs.Path.Normalize
import RuleCompiler.Proofs.Path.Output
import RuleCompiler.Proofs.Path.RuleName
import RuleCompiler.Proofs.Provider.Accounting
import RuleCompiler.Proofs.Provider.Again
import RuleCompiler.Proofs.Provider.Agreement
import RuleCompiler.Proofs.Provider.Base
import RuleCompiler.Proofs.Provider.Calls
import RuleCompiler.Proofs.Provider.Directory
import RuleCompiler.Proofs.Provider.Formats
import RuleCompiler.Proofs.Provider.Globs
import RuleCompiler.Proofs.Provider.Markup
import RuleCompiler.Proofs.Provider.OutputPath
import RuleCompiler.Proofs.Provider.Outside
import RuleCompiler.Proofs.Provider.Placement
import RuleCompiler.Proofs.Provider.SharedPath
import RuleCompiler.Proofs.Provider.Verbatim
import RuleCompiler.Proofs.Provider.Writing
import RuleCompiler.Proofs.Record
import RuleCompiler.Proofs.Record.Written
import RuleCompiler.Proofs.Registry
import RuleCompiler.Proofs.Registry.History
import RuleCompiler.Proofs.Selection
import RuleCompiler.Proofs.Selection.Removal
import RuleCompiler.Proofs.Templating
import RuleCompiler.Proofs.Text.Blank
import RuleCompiler.Proofs.Text.ByteOrder
import RuleCompiler.Proofs.Text.Decimal
import RuleCompiler.Proofs.Text.Ending
import RuleCompiler.Proofs.Text.Line
import RuleCompiler.Proofs.Text.Piece
import RuleCompiler.Proofs.Version
import RuleCompiler.Proofs.Workspace
import RuleCompiler.Proofs.Yaml.Layout
import RuleCompiler.Provider.Basic
import RuleCompiler.Provider.Format
import RuleCompiler.Provider.RuleFile
import RuleCompiler.Provider.SharedFile
import RuleCompiler.Record
import RuleCompiler.Registry
import RuleCompiler.Selection
import RuleCompiler.Template.Argument
import RuleCompiler.Template.Basic
import RuleCompiler.Template.Engine
import RuleCompiler.Template.Grammar
import RuleCompiler.Template.Helper
import RuleCompiler.Template.Page
import RuleCompiler.Template.Reader
import RuleCompiler.Template.Render
import RuleCompiler.Template.Scope
import RuleCompiler.Template.Tag
import RuleCompiler.Templating
import RuleCompiler.Text.Blank
import RuleCompiler.Text.Case
import RuleCompiler.Text.CaseTable
import RuleCompiler.Text.Line
import RuleCompiler.Text.Numeral
import RuleCompiler.Text.Piece
import RuleCompiler.Value
import RuleCompiler.Version
import RuleCompiler.Wording
import RuleCompiler.Workspace
import RuleCompiler.Yaml.Cursor
import RuleCompiler.Yaml.Datum
import RuleCompiler.Yaml.Node
import RuleCompiler.Yaml.Plain
import RuleCompiler.Yaml.Scalar
import RuleCompiler.Yaml.Token
import RuleCompiler.Yaml.Writer
