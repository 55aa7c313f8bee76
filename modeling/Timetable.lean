import Timetable.Main
import Timetable.Window.Fields
import Timetable.Window.Strict
import Timetable.Proofs.Except
import Timetable.Proofs.Text.Blank
import Timetable.Proofs.Text.Case
import Timetable.Proofs.Text.AsciiCase
import Timetable.Proofs.Text.Numeral
import Timetable.Proofs.Text.Spacing
import Timetable.Proofs.Text.Ink
import Timetable.Proofs.Markup.Plain
import Timetable.Proofs.Markup.Scan
import Timetable.Proofs.Markup.Literal
import Timetable.Proofs.Markup.Balance
import Timetable.Proofs.Page.Lines
import Timetable.Proofs.WeekdayName
import Timetable.Proofs.Expression.DayToken
import Timetable.Proofs.Expression.ClockToken
import Timetable.Proofs.Expression.Grammar
import Timetable.Proofs.Expression.Meaning
import Timetable.Proofs.Expression.Acceptance
import Timetable.Proofs.Expression.RoundTrip
import Timetable.Proofs.Expression.Respelling
import Timetable.Proofs.Expression.Rejection
import Timetable.Proofs.Window.Canonical
import Timetable.Proofs.Window.Strings
import Timetable.Proofs.Window.Tiling
import Timetable.Proofs.WindowSet.Items
import Timetable.Proofs.WindowSet.Texts
import Timetable.Proofs.WindowSet.Written
import Timetable.Proofs.Value
import Timetable.Proofs.Window.Fields
import Timetable.Proofs.Config.Names
import Timetable.Proofs.Config.Insertion
import Timetable.Proofs.Config.Validity
import Timetable.Proofs.Config.Problems
import Timetable.Proofs.Config.Sets
import Timetable.Proofs.Yaml.Listing
import Timetable.Proofs.Config.File
import Timetable.Proofs.Config.Root
import Timetable.Proofs.Config.Normal
import Timetable.Proofs.Config.Lookup
import Timetable.Proofs.Checker.Schedule
import Timetable.Proofs.Checker.Selection
import Timetable.Proofs.Checker.Consultation
import Timetable.Proofs.Command.Wording
import Timetable.Proofs.Command.Loading
import Timetable.Proofs.Command.Exit
import Timetable.Proofs.Command.Agreement
import Timetable.Proofs.Command.UserText
import Timetable.Proofs.Date.Ordinal
import Timetable.Proofs.Date.Next
import Timetable.Proofs.WindowSet.Recurrence
import Timetable.Proofs.Zone.Skip
import Timetable.Proofs.Stamp.Wall
import Timetable.Proofs.Command.Timezone
import Timetable.Proofs.Stamp.Iso
import Timetable.Proofs.Command.Repetition
