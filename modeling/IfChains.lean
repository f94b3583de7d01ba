import IfChains.Chain.Branches
import IfChains.Chain.Continuation
import IfChains.Chain.Expansion
import IfChains.Chain.Fault
import IfChains.Chain.Shape
import IfChains.Chain.Synthesis
import IfChains.Chain.Walk
import IfChains.CommandLine
import IfChains.Data.Calendar
import IfChains.Data.Merge
import IfChains.Data.Value
import IfChains.Failure
import IfChains.Files.Path
import IfChains.Files.Store
import IfChains.Grammar.Argument
import IfChains.Grammar.Conclusion
import IfChains.Grammar.Expression
import IfChains.Grammar.Literal
import IfChains.Grammar.Node
import IfChains.Grammar.Parameter
import IfChains.Grammar.Pattern
import IfChains.Grammar.Reading
import IfChains.Grammar.Rule
import IfChains.Grammar.Statement
import IfChains.Grammar.Target
import IfChains.Imports
import IfChains.LiveTree.Basic
import IfChains.Location
import IfChains.Main
import IfChains.Numeral.Double
import IfChains.Numeral.Floating
import IfChains.Numeral.Shortest
import IfChains.Numeral.Whole
import IfChains.Printer.Literal
import IfChains.Printer.Setting
import IfChains.Printer.Shared
import IfChains.Printer.Tree
import IfChains.Program.Run
import IfChains.Program.Streams
import IfChains.Program.Term
import IfChains.Program.Value
import IfChains.Remark
import IfChains.Report
import IfChains.Scope.References
import IfChains.Scope.Stored
import IfChains.Session
import IfChains.Settings.Cache
import IfChains.Settings.Section
import IfChains.Source
import IfChains.Strip
import IfChains.Syntax.Field
import IfChains.Syntax.Label
import IfChains.Syntax.Path
import IfChains.Syntax.Tree
import IfChains.SyntaxFault
import IfChains.Text.Breaks
import IfChains.Text.Case
import IfChains.Text.CharacterName
import IfChains.Text.CharacterName.Ancient
import IfChains.Text.CharacterName.Brahmic
import IfChains.Text.CharacterName.EastAsian
import IfChains.Text.CharacterName.Emblem
import IfChains.Text.CharacterName.European
import IfChains.Text.CharacterName.Form
import IfChains.Text.CharacterName.Further
import IfChains.Text.CharacterName.Gesture
import IfChains.Text.CharacterName.Inscribed
import IfChains.Text.CharacterName.NearEastern
import IfChains.Text.CharacterName.Notation
import IfChains.Text.CharacterName.Operator
import IfChains.Text.CharacterName.Phonetic
import IfChains.Text.CharacterName.Pictograph
import IfChains.Text.CharacterName.Regional
import IfChains.Text.CharacterName.Shape
import IfChains.Text.CharacterName.Sign
import IfChains.Text.CharacterName.SouthAsian
import IfChains.Text.CharacterName.Syllabic
import IfChains.Text.CodePoints
import IfChains.Text.Digits
import IfChains.Text.Escape
import IfChains.Text.Name
import IfChains.Text.Normal
import IfChains.Text.Normal.Compatible
import IfChains.Text.Normal.Composed
import IfChains.Text.Normal.MarkClass
import IfChains.Text.Printable
import IfChains.Text.Quoted
import IfChains.Text.Table
import IfChains.Text.Utf8
import IfChains.Token
import IfChains.Token.Lexer
import IfChains.Token.Number
import IfChains.Tools
import IfChains.Tools.Guide
import IfChains.Transform
import IfChains.Yaml.Cursor
import IfChains.Yaml.Fault
import IfChains.Yaml.Lexer
import IfChains.Yaml.Node
import IfChains.Yaml.Number
import IfChains.Yaml.Resolution
import IfChains.Yaml.ScalarText
import IfChains.Yaml.Timestamp
import IfChains.Yaml.Token
import IfChains.Yaml.Value
import IfChains.Proofs.Chain.Arguments
import IfChains.Proofs.Chain.Call
import IfChains.Proofs.Chain.Cited
import IfChains.Proofs.Chain.Climb
import IfChains.Proofs.Chain.Ensuring
import IfChains.Proofs.Chain.Faults
import IfChains.Proofs.Chain.History
import IfChains.Proofs.Chain.Once
import IfChains.Proofs.Chain.Requests
import IfChains.Proofs.Chain.Rewriting
import IfChains.Proofs.Chain.Stopped
import IfChains.Proofs.Data.Merging
import IfChains.Proofs.Files.Output
import IfChains.Proofs.LiveTree.Locality
import IfChains.Proofs.Scope.Evaluation
import IfChains.Proofs.Scope.Resolution
import IfChains.Proofs.Semantics.Evaluator
import IfChains.Proofs.Semantics.Ladder
import IfChains.Proofs.Semantics.Meaning
import IfChains.Proofs.Settings.Snapshots
import IfChains.Proofs.Syntax.Context
import IfChains.Proofs.Tools.Agreement
import IfChains.Proofs.Transform.Acceptance
import IfChains.Proofs.Transform.Bindings
import IfChains.Proofs.Transform.Blocks
import IfChains.Proofs.Transform.Discovery
import IfChains.Proofs.Transform.Docstrings
import IfChains.Proofs.Transform.Idempotence
import IfChains.Proofs.Transform.Legality
