import Agenda.Calendar.Date
import Agenda.Calendar.DateText
import Agenda.Calendar.Gregorian
import Agenda.Command.Basic
import Agenda.Command.DateArgument
import Agenda.Command.Error
import Agenda.Command.Grammar
import Agenda.Command.Help
import Agenda.Command.Reader
import Agenda.Command.Run
import Agenda.Config.Basic
import Agenda.Config.Environment
import Agenda.Config.Setting
import Agenda.DateExpression.Basic
import Agenda.DateExpression.Clock
import Agenda.DateExpression.Fault
import Agenda.DateExpression.Name
import Agenda.DateExpression.Parser
import Agenda.DateExpression.Reader
import Agenda.DateExpression.TimeOfDay
import Agenda.DateExpression.Token
import Agenda.Directory.Address
import Agenda.Directory.Basic
import Agenda.Directory.Fault
import Agenda.Error
import Agenda.Json.Records
import Agenda.Json.Token
import Agenda.Json.Value
import Agenda.Main
import Agenda.Program
import Agenda.Proofs.Calendar.Cycle
import Agenda.Proofs.Calendar.DateText
import Agenda.Proofs.Calendar.DayNumber
import Agenda.Proofs.Calendar.Gregorian
import Agenda.Proofs.Calendar.Month
import Agenda.Proofs.Calendar.SearchDate
import Agenda.Proofs.Calendar.Year
import Agenda.Proofs.Calendar.YearShift
import Agenda.Proofs.Command.DateArgument
import Agenda.Proofs.Command.Frame
import Agenda.Proofs.Config.Layers
import Agenda.Proofs.DateExpression.Signed
import Agenda.Proofs.Json.Records
import Agenda.Proofs.Json.Text
import Agenda.Proofs.Json.Token
import Agenda.Proofs.Json.Value
import Agenda.Proofs.Recurrence.Cycle
import Agenda.Proofs.Recurrence.Daily
import Agenda.Proofs.Recurrence.DayByDay
import Agenda.Proofs.Recurrence.MonthByMonth
import Agenda.Proofs.Recurrence.Monthly
import Agenda.Proofs.Recurrence.NextDate
import Agenda.Proofs.Recurrence.Occurrence
import Agenda.Proofs.Recurrence.Satisfiable
import Agenda.Proofs.Recurrence.Search
import Agenda.Proofs.Recurrence.StepByStep
import Agenda.Proofs.Recurrence.Wait
import Agenda.Proofs.Recurrence.Weekly
import Agenda.Proofs.Recurrence.YearByYear
import Agenda.Proofs.Recurrence.Yearly
import Agenda.Proofs.Rule.Grammar
import Agenda.Proofs.Rule.RoundTrip
import Agenda.Proofs.Rule.Text
import Agenda.Proofs.Schedule.Accepted
import Agenda.Proofs.Schedule.Agreement
import Agenda.Proofs.Schedule.Basic
import Agenda.Proofs.Schedule.Chain
import Agenda.Proofs.Schedule.Settled
import Agenda.Proofs.Schedule.StoredForm
import Agenda.Proofs.Store.Basic
import Agenda.Proofs.Store.DateSearch
import Agenda.Proofs.Store.Edit
import Agenda.Proofs.Store.Frame
import Agenda.Proofs.Store.Identity
import Agenda.Proofs.Store.Listing
import Agenda.Proofs.Store.Refusal
import Agenda.Proofs.Store.StoredDate
import Agenda.Proofs.Store.TextSearch
import Agenda.Proofs.Text.Bytes
import Agenda.Proofs.Text.Like
import Agenda.Proofs.Text.Literal
import Agenda.Proofs.Text.Numeral
import Agenda.Proofs.Text.Pieces
import Agenda.Proofs.View.Repeat
import Agenda.Recurrence
import Agenda.Rule.Basic
import Agenda.Rule.NumberSet
import Agenda.Rule.Text
import Agenda.Schedule
import Agenda.Store.Basic
import Agenda.Store.Query
import Agenda.Store.Saved
import Agenda.Task
import Agenda.Text.Blank
import Agenda.Text.CharWidth
import Agenda.Text.CodeRange
import Agenda.Text.Emoji
import Agenda.Text.Escape
import Agenda.Text.Hex
import Agenda.Text.Letter
import Agenda.Text.Ligature
import Agenda.Text.Like
import Agenda.Text.Numeral
import Agenda.Text.Style
import Agenda.Text.Width
import Agenda.Timezone
import Agenda.Toml.Reader
import Agenda.Toml.Scalar
import Agenda.Toml.Table
import Agenda.View.RelativeDay
import Agenda.View.Repeat
import Agenda.View.Table
import Agenda.View.Tasks
