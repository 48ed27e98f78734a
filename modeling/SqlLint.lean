import SqlLint.DataType.Json
import SqlLint.Files.Tree
import SqlLint.Main
import SqlLint.Proofs.Syntax.Nodes
import SqlLint.Proofs.Check.Site
import SqlLint.Proofs.Check.Event
import SqlLint.Proofs.Check.Variables
import SqlLint.Proofs.Check.Carry
import SqlLint.Proofs.Parse.Logic
import SqlLint.Proofs.Parse.Walk
import SqlLint.Proofs.Parse.ExprWalk
import SqlLint.Proofs.Parse.StatementKeep
import SqlLint.Proofs.Parse.Loop
import SqlLint.Proofs.Parse.Batch
import SqlLint.Proofs.Parse.Nesting
import SqlLint.Proofs.Parse.Chain
import SqlLint.Proofs.Syntax.Renumber
import SqlLint.Proofs.Parse.Attempt
import SqlLint.Proofs.Parse.Coupling
import SqlLint.Proofs.Parse.ExprCoupling
import SqlLint.Proofs.Parse.StatementCoupling
import SqlLint.Proofs.Parse.Renumber
import SqlLint.Proofs.Parse.Parenthesis
import SqlLint.Proofs.Parse.Levels
import SqlLint.Proofs.Parse.Mute
import SqlLint.Proofs.Parse.Rescan
import SqlLint.Proofs.Parse.Upgrade
import SqlLint.Proofs.Parse.Gate
import SqlLint.Proofs.Parse.Shallow
import SqlLint.Proofs.Script.Split
import SqlLint.Proofs.Script.Analysis
import SqlLint.Proofs.Check.Occurrence
import SqlLint.Proofs.Parse.Fence
import SqlLint.Proofs.Parse.ExprFence
import SqlLint.Proofs.Parse.StatementFence
import SqlLint.Proofs.Parse.Carry
import SqlLint.Proofs.Parse.Confine
import SqlLint.Proofs.Parse.Exact
import SqlLint.Proofs.Parse.Block
import SqlLint.Proofs.Syntax.Canonical
import SqlLint.Proofs.Parse.Pratt
import SqlLint.Proofs.Parse.Declaration
import SqlLint.Proofs.Parse.RoundTrip
import SqlLint.Proofs.Parse.Precedence
import SqlLint.Proofs.Report.Formats
import SqlLint.Proofs.Syntax.Respell
import SqlLint.Proofs.Text.LowerCase
import SqlLint.Proofs.Check.Respell
import SqlLint.Proofs.Parse.Passed
import SqlLint.Proofs.Parse.Boundary
import SqlLint.Proofs.Parse.Limit
import SqlLint.Proofs.Parse.Trace
import SqlLint.Proofs.DataType.Assignment
import SqlLint.Proofs.Check.Arithmetic
import SqlLint.Proofs.Parse.Dispatch
import SqlLint.Proofs.Script.Separator
import SqlLint.Proofs.Check.Remark
import SqlLint.Proofs.Check.Assignment
import SqlLint.Proofs.Check.SymbolTable
import SqlLint.Proofs.Token.FirstOnLine
import SqlLint.Proofs.Parse.StatementNesting
import SqlLint.Proofs.Parse.Counter
