import AnswerDesk.Main
import AnswerDesk.Window.View
import AnswerDesk.Proofs.Decimal.Canonical
import AnswerDesk.Proofs.Decimal.Places
import AnswerDesk.Proofs.Decimal.Truncation
import AnswerDesk.Proofs.Expr.EndMark
import AnswerDesk.Proofs.Expr.Fault
import AnswerDesk.Proofs.Expr.Nesting
import AnswerDesk.Proofs.Expr.Text
import AnswerDesk.Proofs.Expr.Unexpected
import AnswerDesk.Proofs.Resolver.Asked
import AnswerDesk.Proofs.Resolver.Gate
import AnswerDesk.Proofs.Resolver.Length
import AnswerDesk.Proofs.Resolver.Size
import AnswerDesk.Proofs.Resolver.Spacing
import AnswerDesk.Proofs.Table.Canonical
import AnswerDesk.Proofs.Table.Reports
import AnswerDesk.Proofs.Token.Line
import AnswerDesk.Proofs.Window.Explanation
import AnswerDesk.Proofs.Window.Focus
import AnswerDesk.Proofs.Window.History
import AnswerDesk.Proofs.Window.Keypad
import AnswerDesk.Proofs.Window.Known
