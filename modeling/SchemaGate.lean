import SchemaGate.Command
import SchemaGate.Command.Arguments
import SchemaGate.Command.Fault
import SchemaGate.Command.Run
import SchemaGate.Command.Usage
import SchemaGate.Config.Connection
import SchemaGate.Config.EnvFile
import SchemaGate.Config.EnvFile.Assignment
import SchemaGate.Config.EnvFile.Line
import SchemaGate.Config.Environment
import SchemaGate.Config.Fault
import SchemaGate.Config.Placeholder
import SchemaGate.Config.Settings
import SchemaGate.Dialogue
import SchemaGate.Document.Complaint
import SchemaGate.Document.Reader
import SchemaGate.Failure
import SchemaGate.Files
import SchemaGate.Gate.Decision
import SchemaGate.Gate.Lookup
import SchemaGate.Journal
import SchemaGate.Log.Channel
import SchemaGate.Log.Emitter
import SchemaGate.Main
import SchemaGate.MemoryServer
import SchemaGate.MySql.Address
import SchemaGate.MySql.Cell
import SchemaGate.MySql.Charset
import SchemaGate.MySql.Session
import SchemaGate.Plan
import SchemaGate.Plan.Document
import SchemaGate.Plan.Script
import SchemaGate.Row
import SchemaGate.Schema.Column
import SchemaGate.Schema.Database
import SchemaGate.Schema.Identifier
import SchemaGate.Schema.SqlType
import SchemaGate.Schema.Table
import SchemaGate.Script
import SchemaGate.Script.Build
import SchemaGate.Script.Run
import SchemaGate.Text.Alphanumeric
import SchemaGate.Text.Binary64
import SchemaGate.Text.Blank
import SchemaGate.Text.Decimal
import SchemaGate.Text.GraphemeExtend
import SchemaGate.Text.Printable
import SchemaGate.Text.Quoted
import SchemaGate.Text.Replace
import SchemaGate.Text.Utf8
import SchemaGate.Toml.DateTime
import SchemaGate.Toml.Document
import SchemaGate.Toml.Grammar
import SchemaGate.Toml.Number
import SchemaGate.Toml.Quotation
import SchemaGate.Toml.Tree
import SchemaGate.Toml.Value
import SchemaGate.Url
import SchemaGate.Proofs.Runs
import SchemaGate.Proofs.Execution
import SchemaGate.Proofs.PatternListing
import SchemaGate.Proofs.Placeholders
import SchemaGate.Proofs.Substitution
import SchemaGate.Proofs.Occurrences
import SchemaGate.Proofs.CellReading
import SchemaGate.Proofs.Simultaneous
import SchemaGate.Proofs.StoredVersion
import SchemaGate.Proofs.Numerals
import SchemaGate.Proofs.Encoding
import SchemaGate.Proofs.QuotedNames
import SchemaGate.Proofs.ExactVersion
import SchemaGate.Proofs.RunPhase
import SchemaGate.Proofs.TableStatements
import SchemaGate.Proofs.BuilderCalls
import SchemaGate.Proofs.MemoryNames
import SchemaGate.Proofs.LiveListeners
import SchemaGate.Proofs.ExecutionMessages
import SchemaGate.Proofs.MessageStream
import SchemaGate.Proofs.MemoryLookUps
import SchemaGate.Proofs.MemoryGrowth
import SchemaGate.Proofs.Schedules
import SchemaGate.Proofs.SharedServer
import SchemaGate.Proofs.RepeatedRuns
import SchemaGate.Proofs.PlanScripts
import SchemaGate.Proofs.DocumentTrees
import SchemaGate.Proofs.RecordReading
import SchemaGate.Proofs.PlanDocuments
import SchemaGate.Proofs.NamedVariables
import SchemaGate.Proofs.CommandReports
import SchemaGate.Proofs.StatusReports
import SchemaGate.Proofs.PlanPreviews
import SchemaGate.Proofs.FaultyText
import SchemaGate.Proofs.TextCells
import SchemaGate.Proofs.LastWrites
import SchemaGate.Proofs.Emissions
import SchemaGate.Proofs.MemoryUses
import SchemaGate.Proofs.QuotationScan
import SchemaGate.Proofs.TypeKeywords
import SchemaGate.Proofs.TransmittedStatements
