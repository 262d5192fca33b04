import Schedule.Number.Integer
import Schedule.Number.Print
import Schedule.Text.Blank
import Schedule.Time.Pattern
import Schedule.Time.Text
import Schedule.Field.Row
import Schedule.Json.Value
import Schedule.Model.Project
import Schedule.Calendar.Working
import Schedule.Json.Project
import Schedule.Hierarchy.Order
import Schedule.Export.Records
import Schedule.Export.Order9006
import Schedule.Build.Properties
import Schedule.Build.Resources
import Schedule.Build.Calendars
import Schedule.Build.Outline
import Schedule.Build.Links
import Schedule.Build.Rollup
import Schedule.Build.Tasks
import Schedule.Build.Assignments
import Schedule.Build.Fields
import Schedule.Text.Escape
import Schedule.Export.Layout
import Schedule.Export.Reader
import Schedule.Store.Packed
import Schedule.Store.Csv
import Schedule.Store.Directory
import Schedule.Sql.Value
import Schedule.Sql.Lexer
import Schedule.Sql.Syntax
import Schedule.Text.Utf8
import Schedule.Sql.Evaluate
import Schedule.Sql.Script
import Schedule.Store.ProjectDatabase
import Schedule.Build.Steps
import Schedule.Proofs.TaskForest
import Schedule.Proofs.StoredKeys
import Schedule.Proofs.References
import Schedule.Proofs.TaskImage
import Schedule.Proofs.OutlineForest
import Schedule.Proofs.OutlineTables
import Schedule.Proofs.LinkedConstraints
import Schedule.Proofs.HierarchyOrder
import Schedule.Proofs.CalendarParents
import Schedule.Proofs.EarliestFinish
import Schedule.Proofs.ListedProjects
import Schedule.Proofs.FieldReading
import Schedule.Proofs.WorkingSeconds
import Schedule.Proofs.ResourceCalendars
import Schedule.Proofs.FinishingPasses
import Schedule.Proofs.OutlineNumbers
import Schedule.Proofs.SummaryDates
import Schedule.Proofs.HierarchySort
import Schedule.Proofs.UnidentifiedIds
import Schedule.Proofs.WorkPatterns
import Schedule.Proofs.QuotedFields
import Schedule.Proofs.RejoinedRecords
import Schedule.Proofs.MergedRows
import Schedule.Proofs.ProgressRollup
import Schedule.Proofs.PackedCalendars
import Schedule.Proofs.CalendarExceptions
import Schedule.Proofs.DefaultCalendar
import Schedule.Proofs.CivilDates
import Schedule.Proofs.PrintedNumbers
import Schedule.Proofs.PatternReading
import Schedule.Proofs.PrintedStamps
import Schedule.Proofs.ExportStamps
import Schedule.Proofs.TextValues
import Schedule.Proofs.ResourceInitials
