import FormulaGrid.Text.Blank
import FormulaGrid.Address
import FormulaGrid.Number.Binary
import FormulaGrid.Number.Decimal
import FormulaGrid.Number.Shortest
import FormulaGrid.Number.Layout
import FormulaGrid.Formula.Token
import FormulaGrid.Formula.Fault
import FormulaGrid.Formula.Lexeme
import FormulaGrid.Formula.Expr
import FormulaGrid.Formula.Parser
import FormulaGrid.Formula.Error
import FormulaGrid.Formula.Evaluate
import FormulaGrid.Grid
import FormulaGrid.Sheet.Cell
import FormulaGrid.Sheet.Basic
import FormulaGrid.Sheet.Evaluate
import FormulaGrid.Sheet.Edit
import FormulaGrid.Text.Visible
import FormulaGrid.Text.Quoted
import FormulaGrid.Text.Utf8
import FormulaGrid.Text.Offset
import FormulaGrid.Document.Refusal
import FormulaGrid.Document.Numeral
import FormulaGrid.Document.Literal
import FormulaGrid.Document.Read
import FormulaGrid.Document.Write
import FormulaGrid.Disk
import FormulaGrid.Storage
import FormulaGrid.Table
import FormulaGrid.Session.Key
import FormulaGrid.Session.Line
import FormulaGrid.Session.Basic
import FormulaGrid.Session.Press
import FormulaGrid.Screen.Glyph
import FormulaGrid.Screen.Help
import FormulaGrid.Screen.Draw
import FormulaGrid.CommandLine
import FormulaGrid.Main
import FormulaGrid.Proofs.Formula.Answer
import FormulaGrid.Proofs.Formula.Stop
import FormulaGrid.Proofs.Formula.Grammar
import FormulaGrid.Proofs.Formula.Passage
import FormulaGrid.Proofs.Formula.Acceptance
import FormulaGrid.Proofs.Cell.Content
import FormulaGrid.Proofs.Grid
import FormulaGrid.Proofs.Sheet.References
import FormulaGrid.Proofs.Sheet.Descent
import FormulaGrid.Proofs.Sheet.Meaning
import FormulaGrid.Proofs.Sheet.Context
import FormulaGrid.Proofs.Sheet.Blame
import FormulaGrid.Proofs.Sheet.Locality
import FormulaGrid.Proofs.Sheet.Recalculate
import FormulaGrid.Proofs.Sheet.Update
import FormulaGrid.Proofs.Sheet.History
import FormulaGrid.Proofs.Text.Utf8
import FormulaGrid.Proofs.Document.Spelling
import FormulaGrid.Proofs.Document.Literal
import FormulaGrid.Proofs.Document.Reading
import FormulaGrid.Proofs.Sheet.Storage
import FormulaGrid.Proofs.Sheet.Extent
import FormulaGrid.Proofs.Session.Events
import FormulaGrid.Proofs.Session.Selection
import FormulaGrid.Proofs.Session.Command
import FormulaGrid.Proofs.Session.Mode
import FormulaGrid.Proofs.Formula.Lexing
import FormulaGrid.Proofs.Formula.Offence
import FormulaGrid.Proofs.Formula.Rejection
import FormulaGrid.Proofs.Sheet.Resize
import FormulaGrid.Proofs.Formula.Question
import FormulaGrid.Proofs.Sheet.Calls
import FormulaGrid.Proofs.Formula.Limits
import FormulaGrid.Proofs.Sheet.Depth
import FormulaGrid.Proofs.Formula.LetterCase
import FormulaGrid.Proofs.Sheet.Respelling
import FormulaGrid.Proofs.Address.Letters
import FormulaGrid.Proofs.Address.Name
import FormulaGrid.Proofs.Sheet.Naming
import FormulaGrid.Proofs.Formula.Inquiry
import FormulaGrid.Proofs.Session.Line
import FormulaGrid.Proofs.Session.Editing
import FormulaGrid.Proofs.Screen.Place
import FormulaGrid.Proofs.Screen.Window
import FormulaGrid.Proofs.Formula.Spelling
import FormulaGrid.Proofs.Formula.Partition
import FormulaGrid.Proofs.Text.Trimming
import FormulaGrid.Proofs.Table.Columns
import FormulaGrid.Proofs.Formula.Wording
import FormulaGrid.Proofs.Sheet.Messages
import FormulaGrid.Proofs.Table.Lines
import FormulaGrid.Proofs.Disk.Writing
import FormulaGrid.Proofs.Session.Prompt
import FormulaGrid.Proofs.Address.Order
import FormulaGrid.Proofs.Number.Numeral
import FormulaGrid.Proofs.Sheet.Literals
import FormulaGrid.Proofs.Sheet.Trimming
import FormulaGrid.Proofs.Session.Scrolling
import FormulaGrid.Proofs.Screen.Help
