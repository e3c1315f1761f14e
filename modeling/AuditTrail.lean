import AuditTrail.Backend
import AuditTrail.Binary64
import AuditTrail.Command.Basic
import AuditTrail.Command.Clause
import AuditTrail.CommandLine.Arguments
import AuditTrail.CommandLine.Environment
import AuditTrail.CommandLine.Program
import AuditTrail.CommandLine.Surroundings
import AuditTrail.Config.Basic
import AuditTrail.Config.Files
import AuditTrail.Config.Kind
import AuditTrail.ContentTypes
import AuditTrail.Disk
import AuditTrail.Entry.Basic
import AuditTrail.Entry.Text
import AuditTrail.EntryId
import AuditTrail.Error
import AuditTrail.Filter
import AuditTrail.IdSupply
import AuditTrail.Instant.Basic
import AuditTrail.Instant.Text
import AuditTrail.Json.Basic
import AuditTrail.Json.Form
import AuditTrail.Json.Number
import AuditTrail.Json.Text
import AuditTrail.Level
import AuditTrail.Location
import AuditTrail.Log.Batch
import AuditTrail.Log.Memory
import AuditTrail.Log.Table
import AuditTrail.Logging.FieldTest
import AuditTrail.Logging.Filter
import AuditTrail.Logging.Pattern
import AuditTrail.Logging.Setup
import AuditTrail.Main
import AuditTrail.Notice
import AuditTrail.Proofs.Backend.Agreement
import AuditTrail.Proofs.Backend.Alike
import AuditTrail.Proofs.Backend.AppendOnly
import AuditTrail.Proofs.Backend.Batch
import AuditTrail.Proofs.Backend.Consistent
import AuditTrail.Proofs.Backend.Contents
import AuditTrail.Proofs.Backend.Guard
import AuditTrail.Proofs.Backend.Opening
import AuditTrail.Proofs.Backend.Operations
import AuditTrail.Proofs.Backend.Pages
import AuditTrail.Proofs.Backend.Run
import AuditTrail.Proofs.Backend.Selection
import AuditTrail.Proofs.Backend.TimeCuts
import AuditTrail.Proofs.Backend.Unreadable
import AuditTrail.Proofs.Backend.Workplace
import AuditTrail.Proofs.Binary64.Nearest
import AuditTrail.Proofs.Binary64.Rounding
import AuditTrail.Proofs.Binary64.Shortest
import AuditTrail.Proofs.Command.AllOrNothing
import AuditTrail.Proofs.Command.Answers
import AuditTrail.Proofs.Command.ByText
import AuditTrail.Proofs.Command.Meant
import AuditTrail.Proofs.Command.Readable
import AuditTrail.Proofs.Command.Recording
import AuditTrail.Proofs.Command.Session
import AuditTrail.Proofs.Command.Timestamps
import AuditTrail.Proofs.Config.Overlay
import AuditTrail.Proofs.ContentType
import AuditTrail.Proofs.ContentTypes
import AuditTrail.Proofs.Disk
import AuditTrail.Proofs.Entry.Text
import AuditTrail.Proofs.EntryId
import AuditTrail.Proofs.Filter.Clause
import AuditTrail.Proofs.Filter.Loose
import AuditTrail.Proofs.Instant.Basic
import AuditTrail.Proofs.Instant.Loose
import AuditTrail.Proofs.Instant.Text
import AuditTrail.Proofs.Json.Canonical
import AuditTrail.Proofs.Json.Depth
import AuditTrail.Proofs.Json.Form
import AuditTrail.Proofs.Json.Grammar
import AuditTrail.Proofs.Json.Meaning
import AuditTrail.Proofs.Json.Number
import AuditTrail.Proofs.Json.Readable
import AuditTrail.Proofs.Json.Text
import AuditTrail.Proofs.Log.Consistent
import AuditTrail.Proofs.Log.Contents
import AuditTrail.Proofs.Log.Memory
import AuditTrail.Proofs.Log.Order
import AuditTrail.Proofs.Log.Table
import AuditTrail.Proofs.OneByOne
import AuditTrail.Proofs.ReadBack
import AuditTrail.Proofs.Readable
import AuditTrail.Proofs.Registry.Appending
import AuditTrail.Proofs.Registry.Definition
import AuditTrail.Proofs.Registry.Hook
import AuditTrail.Proofs.Row
import AuditTrail.Proofs.Row.Blame
import AuditTrail.Proofs.Row.Normal
import AuditTrail.Proofs.Sql.Clause
import AuditTrail.Proofs.Sql.Names
import AuditTrail.Proofs.Sql.Placeholders
import AuditTrail.Proofs.Sql.Query
import AuditTrail.Proofs.Text.Numeral
import AuditTrail.Proofs.Text.Separated
import AuditTrail.Registry.Basic
import AuditTrail.Registry.Definition
import AuditTrail.Registry.Summary
import AuditTrail.Row
import AuditTrail.Sql.Archive
import AuditTrail.Sql.Cell
import AuditTrail.Sql.Condition
import AuditTrail.Sql.Database
import AuditTrail.Sql.Query
import AuditTrail.System
import AuditTrail.Text.Blank
import AuditTrail.Text.CharSet
import AuditTrail.Text.Digits
import AuditTrail.Text.InvisibleTable
import AuditTrail.Text.LowerCase
import AuditTrail.Text.Word
import AuditTrail.Toml.Document
import AuditTrail.Toml.Scalar
import AuditTrail.Toml.Token
