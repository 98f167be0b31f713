import Sexpr.Expr.Dictionary
import Sexpr.Expr.Grouping
import Sexpr.Expr.Source
import Sexpr.Main
import Sexpr.Proofs.Binary64.Denoted
import Sexpr.Proofs.Binary64.Equal
import Sexpr.Proofs.Binary64.Exact
import Sexpr.Proofs.Binary64.Fewest
import Sexpr.Proofs.Binary64.Nearest
import Sexpr.Proofs.Binary64.Printed
import Sexpr.Proofs.Binary64.Rounded
import Sexpr.Proofs.Command.LineEnd
import Sexpr.Proofs.Command.Nesting
import Sexpr.Proofs.Command.Report
import Sexpr.Proofs.Command.Verbose
import Sexpr.Proofs.Expr.Equal
import Sexpr.Proofs.Expr.Grouping
import Sexpr.Proofs.Expr.Printed
import Sexpr.Proofs.Expr.Shape
import Sexpr.Proofs.Expr.Source
import Sexpr.Proofs.Literal.Classify
import Sexpr.Proofs.Literal.Decimal
import Sexpr.Proofs.Literal.Float
import Sexpr.Proofs.Literal.Integer
import Sexpr.Proofs.Literal.Kind
import Sexpr.Proofs.Literal.Printed
import Sexpr.Proofs.Literal.Sign
import Sexpr.Proofs.Literal.Table
import Sexpr.Proofs.Reader.Append
import Sexpr.Proofs.Reader.Fault
import Sexpr.Proofs.Reader.Forest
import Sexpr.Proofs.Reader.Growth
import Sexpr.Proofs.Reader.Replay
import Sexpr.Proofs.Reader.Run
import Sexpr.Proofs.Reader.Stack
import Sexpr.Proofs.Text.ClosingQuote
import Sexpr.Proofs.Text.Line
import Sexpr.Proofs.Text.Quoted
import Sexpr.Proofs.Token.Append
import Sexpr.Proofs.Token.Atom
import Sexpr.Proofs.Token.Parts
import Sexpr.Proofs.Token.Spelling
import Sexpr.Proofs.Token.Tokens
import Sexpr.Token.Grammar
import Sexpr.Tour
