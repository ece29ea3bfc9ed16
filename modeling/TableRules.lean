import TableRules.Cell
import TableRules.Command.Folder
import TableRules.Csv.Reader
import TableRules.Evaluation.Context
import TableRules.Main
import TableRules.Parser
import TableRules.Proofs.Agreement
import TableRules.Proofs.Verdicts
import TableRules.Report
import TableRules.Session
import TableRules.Stored.Rules
import TableRules.Stored.Tables
import TableRules.Validation
import TableRules.Proofs.Isolation
import TableRules.Proofs.Reliance
import TableRules.Proofs.Selection
import TableRules.Proofs.FirstAppearances
import TableRules.Proofs.OrderedRules
import TableRules.Proofs.Documents
import TableRules.Proofs.Records
import TableRules.Proofs.Restoring
import TableRules.Proofs.Grammar
import TableRules.Proofs.QuotedText
import TableRules.Proofs.RuleNames
import TableRules.Proofs.Batches
import TableRules.Proofs.LineReferences
import TableRules.Proofs.BoundConditions
import TableRules.Proofs.TextSearches
import TableRules.Proofs.MirroredConditions
import TableRules.Proofs.IntegerOrder
import TableRules.Proofs.ReferenceExpressions
import TableRules.Proofs.ColumnNames
import TableRules.Proofs.Reports
import TableRules.Proofs.InferredCells
import TableRules.Proofs.StoredTables
import TableRules.Proofs.ConnectiveSpans
import TableRules.Proofs.Parentheses
import TableRules.Proofs.Places
import TableRules.Proofs.DerivedNames
