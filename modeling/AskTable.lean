import AskTable.Assistant.Basic
import AskTable.Assistant.Inquiry
import AskTable.Assistant.Outcome
import AskTable.Assistant.Session
import AskTable.Calendar.Clock
import AskTable.Calendar.Date
import AskTable.Calendar.Moment
import AskTable.Calendar.Span
import AskTable.Cell.Basic
import AskTable.Cell.Key
import AskTable.Cell.Numeric
import AskTable.Cell.Text
import AskTable.Error
import AskTable.Fault
import AskTable.File.Columns
import AskTable.File.Delimited
import AskTable.File.Disk
import AskTable.File.Header
import AskTable.File.Load
import AskTable.File.Path
import AskTable.File.Record
import AskTable.File.SheetColumn
import AskTable.File.StoredCell
import AskTable.File.Workbook
import AskTable.Main
import AskTable.Model.Fence
import AskTable.Model.Request
import AskTable.Model.Translator
import AskTable.Number.Binary64
import AskTable.Number.Decimal
import AskTable.Number.Mean
import AskTable.Number.Numeral
import AskTable.Number.Power
import AskTable.Number.Shortest
import AskTable.Number.Written
import AskTable.Question.Identifier
import AskTable.Question.Phrase
import AskTable.Question.Plan
import AskTable.Question.Statement
import AskTable.Report.Answer
import AskTable.Report.Chart
import AskTable.Report.Envelope
import AskTable.Report.Insights
import AskTable.Report.Json
import AskTable.Report.Plain
import AskTable.Report.Quality
import AskTable.Report.Summary
import AskTable.Settings.Basic
import AskTable.Settings.Binding
import AskTable.Settings.Environment
import AskTable.Statement.Complexity
import AskTable.Statement.Limit
import AskTable.Statement.Projection
import AskTable.Statement.SelectList
import AskTable.Statement.Shape
import AskTable.Table.Basic
import AskTable.Table.Entries
import AskTable.Table.Frame
import AskTable.Table.Naming
import AskTable.Table.Row
import AskTable.Terminal.Basic
import AskTable.Terminal.Launch
import AskTable.Terminal.Options
import AskTable.Terminal.Screen
import AskTable.Text.Blank
import AskTable.Text.Case
import AskTable.Text.CaseTable
import AskTable.Text.Digit
import AskTable.Text.Hex
import AskTable.Text.HiddenTable
import AskTable.Text.Keyword
import AskTable.Text.Lines
import AskTable.Text.Quoted
import AskTable.Text.Utf8
import AskTable.Text.Word
import AskTable.Text.WordTable
import AskTable.Warehouse.Activation
import AskTable.Warehouse.Basic
import AskTable.Warehouse.Catalog
import AskTable.Warehouse.Connect
import AskTable.Warehouse.Connector
import AskTable.Warehouse.Login
import AskTable.Warehouse.Race
import AskTable.Proofs.PlainText
import AskTable.Proofs.Pieces
import AskTable.Proofs.Plans
import AskTable.Proofs.Rows
import AskTable.Proofs.RowWise
import AskTable.Proofs.PlannedAnswer
import AskTable.Proofs.Course
import AskTable.Proofs.PlannedTable
import AskTable.Proofs.Run
import AskTable.Proofs.SessionMode
import AskTable.Proofs.Dialogue
import AskTable.Proofs.Traffic
import AskTable.Proofs.DigitRuns
import AskTable.Proofs.Failures
import AskTable.Proofs.Headers
import AskTable.Proofs.LoadedTables
import AskTable.Proofs.NamedColumns
import AskTable.Proofs.WrittenRecords
import AskTable.Proofs.DelimitedRows
import AskTable.Proofs.Fallback
import AskTable.Proofs.ActiveWarehouse
import AskTable.Proofs.Agreement
import AskTable.Proofs.StrictJson
import AskTable.Proofs.PlainCells
import AskTable.Proofs.StrictEnvelope
import AskTable.Proofs.RepeatedAnswers
import AskTable.Proofs.SoleConnection
import AskTable.Proofs.Breakage
import AskTable.Proofs.OwnErrors
import AskTable.Proofs.Confidential
import AskTable.Proofs.OutsideSample
import AskTable.Proofs.UniformTables
import AskTable.Proofs.SmallForms
import AskTable.Proofs.DataEndings
import AskTable.Proofs.Turns
import AskTable.Proofs.Underway
import AskTable.Proofs.SharedAttempts
import AskTable.Proofs.GivenUpLogins
import AskTable.Proofs.Dealings
import AskTable.Proofs.SingleFlight
import AskTable.Proofs.FinalClose
import AskTable.Proofs.IsolatedRequests
import AskTable.Proofs.FirstUsable
import AskTable.Proofs.Patterns
import AskTable.Proofs.SelectLists
import AskTable.Proofs.ListPlaces
import AskTable.Proofs.TrailingClauses
import AskTable.Proofs.RowLimits
import AskTable.Proofs.PhrasePlaces
import AskTable.Proofs.GroundedPlans
import AskTable.Proofs.SpokenNames
import AskTable.Proofs.SpelledOrders
import AskTable.Proofs.SkippedValues
import AskTable.Proofs.WholeNumerals
import AskTable.Proofs.LongestNumerals
import AskTable.Proofs.DistinctCounts
import AskTable.Proofs.ColumnMeasures
import AskTable.Proofs.Quantities
import AskTable.Proofs.EqualCells
import AskTable.Proofs.RowOrder
import AskTable.Proofs.DefeatedAnalyses
import AskTable.Proofs.PickedFile
import AskTable.Proofs.ListedTables
import AskTable.Proofs.FencedReplies
import AskTable.Proofs.FirstLabels
import AskTable.Proofs.ChartedColumns
import AskTable.Proofs.ProjectedColumns
import AskTable.Proofs.QuotedOrders
import AskTable.Proofs.AbsolutePaths
import AskTable.Proofs.SettingsSources
import AskTable.Proofs.ErrorKinds
import AskTable.Proofs.ExitCodes
