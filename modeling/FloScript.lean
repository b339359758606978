import FloScript.Builtin
import FloScript.Command
import FloScript.Command.Arguments
import FloScript.Command.Perform
import FloScript.Console
import FloScript.Evaluation
import FloScript.Fault
import FloScript.Grammar.Basic
import FloScript.Grammar.Cursor
import FloScript.Grammar.Expression
import FloScript.Grammar.Statement
import FloScript.Json.Reader
import FloScript.Json.Writer
import FloScript.Literal
import FloScript.Machine
import FloScript.Main
import FloScript.Node
import FloScript.Number.Basic
import FloScript.Number.Dyadic
import FloScript.Number.Reading
import FloScript.Number.Shortest
import FloScript.Number.Written
import FloScript.Pattern
import FloScript.Pattern.Reader
import FloScript.Proofs.Acceptance
import FloScript.Proofs.Arithmetic
import FloScript.Proofs.CallFrames
import FloScript.Proofs.CalmFaults
import FloScript.Proofs.CatchClauses
import FloScript.Proofs.Clause
import FloScript.Proofs.ClauseAcceptance
import FloScript.Proofs.ClauseClashes
import FloScript.Proofs.ClauseEnds
import FloScript.Proofs.ClauseRecognition
import FloScript.Proofs.ClauseRefusal
import FloScript.Proofs.ConsoleSessions
import FloScript.Proofs.ContainedReturns
import FloScript.Proofs.DictLiterals
import FloScript.Proofs.Discipline
import FloScript.Proofs.DisciplinedEvaluation
import FloScript.Proofs.EndStates
import FloScript.Proofs.ExpressionLocality
import FloScript.Proofs.Fibonacci
import FloScript.Proofs.FormRefusal
import FloScript.Proofs.FunctionForms
import FloScript.Proofs.GrouplessTexts
import FloScript.Proofs.HeldValues
import FloScript.Proofs.IfChain
import FloScript.Proofs.JoinedPrograms
import FloScript.Proofs.JoinedTexts
import FloScript.Proofs.JsonNumbers
import FloScript.Proofs.JsonRoundTrip
import FloScript.Proofs.JsonStrings
import FloScript.Proofs.KeptTokens
import FloScript.Proofs.KnownForms
import FloScript.Proofs.Leaving
import FloScript.Proofs.LiteralLines
import FloScript.Proofs.LiteralPaths
import FloScript.Proofs.LogicalOperands
import FloScript.Proofs.MalformedRoutes
import FloScript.Proofs.Matching
import FloScript.Proofs.Nesting
import FloScript.Proofs.NodeParts
import FloScript.Proofs.NumberTexts
import FloScript.Proofs.OptionalBraces
import FloScript.Proofs.Parentheses
import FloScript.Proofs.ParsedTrees
import FloScript.Proofs.ParsingEnds
import FloScript.Proofs.PartRefusal
import FloScript.Proofs.PatternAlternatives
import FloScript.Proofs.PatternTexts
import FloScript.Proofs.Phrase
import FloScript.Proofs.PhraseRefusal
import FloScript.Proofs.Policy
import FloScript.Proofs.Precedence
import FloScript.Proofs.PrimaryRefusal
import FloScript.Proofs.Printing
import FloScript.Proofs.ProgramRefusal
import FloScript.Proofs.Reading
import FloScript.Proofs.Recognition
import FloScript.Proofs.Refusal
import FloScript.Proofs.Respacing
import FloScript.Proofs.Responses
import FloScript.Proofs.RouteTemplates
import FloScript.Proofs.Routing
import FloScript.Proofs.ScanFaults
import FloScript.Proofs.ScannerCounters
import FloScript.Proofs.Scanning
import FloScript.Proofs.ScopeCells
import FloScript.Proofs.ScopeGraph
import FloScript.Proofs.ScopeRuns
import FloScript.Proofs.ScopeSessions
import FloScript.Proofs.Separators
import FloScript.Proofs.Sessions
import FloScript.Proofs.Spelling
import FloScript.Proofs.StringLiterals
import FloScript.Proofs.Tiling
import FloScript.Proofs.TokenSteps
import FloScript.Proofs.ValueParts
import FloScript.Route
import FloScript.Scanner
import FloScript.Scope
import FloScript.Server
import FloScript.Session
import FloScript.Text.Blank
import FloScript.Text.Case
import FloScript.Text.Cased
import FloScript.Text.CharName
import FloScript.Text.CharName.Aliases
import FloScript.Text.CharName.Alphabets
import FloScript.Text.CharName.Ancient
import FloScript.Text.CharName.East
import FloScript.Text.CharName.Figures
import FloScript.Text.CharName.Modern
import FloScript.Text.CharName.Pictures
import FloScript.Text.CharName.Syllables
import FloScript.Text.CharName.Symbols
import FloScript.Text.CharName.Words
import FloScript.Text.Letter
import FloScript.Text.Numeral
import FloScript.Text.Quoted
import FloScript.Text.Ranges
import FloScript.Text.Utf8
import FloScript.Text.Visible
import FloScript.Text.Word
import FloScript.Token
import FloScript.Token.Kind
import FloScript.Value
import FloScript.Value.Display
import FloScript.Value.Equality
import FloScript.Value.Member
import FloScript.Value.Operator
import FloScript.Value.Percent
import FloScript.Workload.Source
