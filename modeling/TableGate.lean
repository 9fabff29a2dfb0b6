import TableGate.Answer
import TableGate.Answer.Csv
import TableGate.Answer.Form
import TableGate.Answer.Html
import TableGate.Answer.Json
import TableGate.Answer.Layout
import TableGate.Body
import TableGate.Body.Csv
import TableGate.Body.JsonRows
import TableGate.Body.Multipart
import TableGate.Body.Native
import TableGate.Body.UrlEncoded
import TableGate.Calendar.DateTime
import TableGate.Calendar.Iso
import TableGate.Calendar.IsoParser
import TableGate.Cell
import TableGate.Column
import TableGate.Column.Codec
import TableGate.Config.Check
import TableGate.Config.File
import TableGate.Config.Location
import TableGate.Config.LogLevel
import TableGate.Config.Settings
import TableGate.Config.TableOptions
import TableGate.Config.Value
import TableGate.Cursor
import TableGate.Fault
import TableGate.Gateway
import TableGate.Gateway.Batch
import TableGate.Gateway.Constraint
import TableGate.Gateway.Exchange
import TableGate.Json
import TableGate.Json.Reader
import TableGate.Json.Writer
import TableGate.Log
import TableGate.Media
import TableGate.Number.Binary64
import TableGate.Number.Integer
import TableGate.Number.Numeral
import TableGate.Number.Shortest
import TableGate.OpenApi
import TableGate.Outcome
import TableGate.Proofs.BatchAtomicity
import TableGate.Proofs.Fallible
import TableGate.Proofs.IdParts
import TableGate.Proofs.KeyCondition
import TableGate.Proofs.LiteralContainment
import TableGate.Proofs.MediaReading
import TableGate.Proofs.NumberText
import TableGate.Proofs.QuotedRuns
import TableGate.Proofs.RowIdentity
import TableGate.Proofs.TagReplacement
import TableGate.Proofs.TextFacts
import TableGate.Query
import TableGate.Query.Aggregate
import TableGate.Query.Filter
import TableGate.Query.FilterParser
import TableGate.Query.Limit
import TableGate.Query.Order
import TableGate.Query.Select
import TableGate.Request
import TableGate.Sql.DatabaseName
import TableGate.Sql.Dialect
import TableGate.Sql.DriverValue
import TableGate.Sql.Engine
import TableGate.Sql.Literal
import TableGate.Sql.SelectStatement
import TableGate.Table
import TableGate.Table.Clauses
import TableGate.Table.CreateTable
import TableGate.Table.Statement
import TableGate.Table.Wire
import TableGate.Text.Base64
import TableGate.Text.Basic
import TableGate.Text.Blank
import TableGate.Text.Brackets
import TableGate.Text.Case
import TableGate.Text.CaseTable
import TableGate.Text.Digit
import TableGate.Text.Entity
import TableGate.Text.Hex
import TableGate.Text.JsonString
import TableGate.Text.Markup
import TableGate.Text.Percent
import TableGate.Text.Printable
import TableGate.Text.Ranges
import TableGate.Text.Shown
import TableGate.Text.Utf8
import TableGate.Text.Word
import TableGate.Yaml.Implicit
import TableGate.Yaml.Node
import TableGate.Yaml.Place
import TableGate.Yaml.ScalarText
import TableGate.Yaml.Token
import TableGate.Yaml.Value
import TableGate.Proofs.BracketBalance
import TableGate.Proofs.SelectClosure
import TableGate.Proofs.CsvReading
import TableGate.Proofs.RowTransport
import TableGate.Proofs.CsvRoundTrip
import TableGate.Proofs.DecimalReading
import TableGate.Proofs.IsoReading
import TableGate.Proofs.Base64Reading
import TableGate.Proofs.JsonReading
import TableGate.Proofs.JsonRoundTrip
import TableGate.Proofs.FilterWriting
import TableGate.Proofs.KeyCompleteness
import TableGate.Proofs.IntegerRounding
import TableGate.Proofs.IntegerKeys
import TableGate.Proofs.RowConstraints
import TableGate.Proofs.UrlRoundTrip
import TableGate.Proofs.FormRoundTrip
import TableGate.Proofs.JsonWellFormed
import TableGate.Proofs.KeySecrecy
import TableGate.Proofs.Contracts
import TableGate.Proofs.FloatRange
import TableGate.Proofs.SpelledCells
import TableGate.Proofs.JsonPrinting
import TableGate.Proofs.BodyRows
import TableGate.Proofs.ConsistentAnswers
import TableGate.Proofs.PrintingFaults
import TableGate.Proofs.ServerErrors
import TableGate.Proofs.QueryFaults
import TableGate.Proofs.SqlText
import TableGate.Proofs.FilterGroups
import TableGate.Proofs.WrittenCells
import TableGate.Proofs.Projections
import TableGate.Proofs.BatchErrors
import TableGate.Proofs.UnselectedFields
import TableGate.Proofs.CsvSheets
import TableGate.Proofs.FileParts
import TableGate.Proofs.SchemaConformance
import TableGate.Proofs.LiteralReading
import TableGate.Proofs.FilterReadings
import TableGate.Proofs.FilterNegation
import TableGate.Proofs.FilterShape
import TableGate.Proofs.TemplateFilling
import TableGate.Proofs.MarkupContainment
import TableGate.Proofs.RequestedFunctions
import TableGate.Proofs.DateLiterals
import TableGate.Proofs.BlobTransport
import TableGate.Proofs.BooleanWords
import TableGate.Proofs.EncodedTexts
import TableGate.Proofs.RowsInOrder
import TableGate.Proofs.TableStatements
import TableGate.Proofs.ColumnParts
import TableGate.Proofs.TableColumns
import TableGate.Proofs.ColumnClauses
import TableGate.Proofs.KeyDeclarations
import TableGate.Proofs.ColumnNames
import TableGate.Proofs.PageWindows
import TableGate.Proofs.ReportHistory
import TableGate.Proofs.ModifierReading
import TableGate.Proofs.ForeignFields
import TableGate.Proofs.LimitForms
import TableGate.Proofs.BracketSplitting
import TableGate.Proofs.InterfaceDocument
import TableGate.Proofs.OperationIds
import TableGate.Proofs.SchemaReferences
import TableGate.Proofs.SettledCells
