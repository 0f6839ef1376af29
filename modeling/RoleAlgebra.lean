import RoleAlgebra.CommandLine.Command
import RoleAlgebra.CommandLine.Help
import RoleAlgebra.CommandLine.Reader
import RoleAlgebra.CommandLine.Run
import RoleAlgebra.CommandLine.Settings
import RoleAlgebra.Diagnostic
import RoleAlgebra.Document.Standard
import RoleAlgebra.Document.Value
import RoleAlgebra.Evaluation.Basic
import RoleAlgebra.Evaluation.Step
import RoleAlgebra.Evaluation.Text
import RoleAlgebra.Formula.Basic
import RoleAlgebra.Formula.Nodes
import RoleAlgebra.Formula.Outline
import RoleAlgebra.Formula.Printer
import RoleAlgebra.Json.Document
import RoleAlgebra.Json.Printer
import RoleAlgebra.Json.Token
import RoleAlgebra.Log
import RoleAlgebra.LogFilter
import RoleAlgebra.LogFilter.Directive
import RoleAlgebra.LogFilter.Level
import RoleAlgebra.Lookup.Basic
import RoleAlgebra.Lookup.Script
import RoleAlgebra.Main
import RoleAlgebra.Operator
import RoleAlgebra.Output
import RoleAlgebra.Parser.Error
import RoleAlgebra.Parser.State
import RoleAlgebra.Pattern.Basic
import RoleAlgebra.Pattern.CharacterClass
import RoleAlgebra.Pattern.Reader
import RoleAlgebra.PermissionSet
import RoleAlgebra.Proofs.CommandLine.Execution
import RoleAlgebra.Proofs.CommandLine.Reader
import RoleAlgebra.Proofs.CommandLine.Words
import RoleAlgebra.Proofs.Diagnostic.Causes
import RoleAlgebra.Proofs.Evaluation.Calls
import RoleAlgebra.Proofs.Evaluation.LeafOrder
import RoleAlgebra.Proofs.Evaluation.Logged
import RoleAlgebra.Proofs.Evaluation.Pointwise
import RoleAlgebra.Proofs.Evaluation.Trace
import RoleAlgebra.Proofs.First
import RoleAlgebra.Proofs.Formula.Composition
import RoleAlgebra.Proofs.Formula.Moved
import RoleAlgebra.Proofs.Formula.Placement
import RoleAlgebra.Proofs.Formula.Respaced
import RoleAlgebra.Proofs.Grammar.Basic
import RoleAlgebra.Proofs.Grammar.Placed
import RoleAlgebra.Proofs.Parser.Acceptance
import RoleAlgebra.Proofs.Parser.Calls
import RoleAlgebra.Proofs.Parser.Descent
import RoleAlgebra.Proofs.Parser.EarliestError
import RoleAlgebra.Proofs.Parser.Incomplete
import RoleAlgebra.Proofs.Parser.Kinds
import RoleAlgebra.Proofs.Parser.Places
import RoleAlgebra.Proofs.Parser.Positions
import RoleAlgebra.Proofs.Parser.Progress
import RoleAlgebra.Proofs.Parser.Underlined
import RoleAlgebra.Proofs.PermissionSet.Updates
import RoleAlgebra.Proofs.Printer.FewestGroups
import RoleAlgebra.Proofs.Printer.Outline
import RoleAlgebra.Proofs.Printer.RoundTrip
import RoleAlgebra.Proofs.Role.Document
import RoleAlgebra.Proofs.Role.Lines
import RoleAlgebra.Proofs.RoleFile.Formats
import RoleAlgebra.Proofs.RoleProgram.Stages
import RoleAlgebra.Proofs.Text.Lenient
import RoleAlgebra.Proofs.Text.Lines
import RoleAlgebra.Proofs.Text.Part
import RoleAlgebra.Proofs.Text.Positions
import RoleAlgebra.Proofs.Text.Trimmed
import RoleAlgebra.Proofs.Text.Utf8
import RoleAlgebra.Proofs.Token.Alphabet
import RoleAlgebra.Proofs.Token.Balance
import RoleAlgebra.Proofs.Token.Layout
import RoleAlgebra.Proofs.Token.Locality
import RoleAlgebra.Proofs.Token.Moved
import RoleAlgebra.Proofs.Token.Scan
import RoleAlgebra.Proofs.Token.Spans
import RoleAlgebra.Proofs.Token.Words
import RoleAlgebra.Proofs.World.Consultation
import RoleAlgebra.Proofs.World.Logged
import RoleAlgebra.Reference
import RoleAlgebra.Role
import RoleAlgebra.RoleFile
import RoleAlgebra.RoleProgram
import RoleAlgebra.Text.Alphanumeric
import RoleAlgebra.Text.Blank
import RoleAlgebra.Text.Decimal
import RoleAlgebra.Text.Digits
import RoleAlgebra.Text.Location
import RoleAlgebra.Text.Position
import RoleAlgebra.Text.Slice
import RoleAlgebra.Text.Terminal
import RoleAlgebra.Text.Utf8
import RoleAlgebra.Token.Basic
import RoleAlgebra.Token.Scanner
import RoleAlgebra.World.Basic
import RoleAlgebra.World.Memory
import RoleAlgebra.Yaml.Block
import RoleAlgebra.Yaml.Character
import RoleAlgebra.Yaml.Document
import RoleAlgebra.Yaml.Gap
import RoleAlgebra.Yaml.Layout
import RoleAlgebra.Yaml.Node
import RoleAlgebra.Yaml.Plain
import RoleAlgebra.Yaml.Property
import RoleAlgebra.Yaml.Quoted
import RoleAlgebra.Yaml.Scalar
import RoleAlgebra.Yaml.Token
import RoleAlgebra.Yaml.Writer
