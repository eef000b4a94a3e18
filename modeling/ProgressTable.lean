import ProgressTable.Calendar.Civil
import ProgressTable.Calendar.DateFormat
import ProgressTable.Calendar.Pattern
import ProgressTable.Command.Basic
import ProgressTable.CommandLine.Arguments
import ProgressTable.CommandLine.Extra
import ProgressTable.CommandLine.Host
import ProgressTable.CommandLine.Run
import ProgressTable.DateRange
import ProgressTable.Decimal.Binary64
import ProgressTable.Decimal.Shortest
import ProgressTable.Element.Config
import ProgressTable.Element.Element
import ProgressTable.Element.Page
import ProgressTable.Form.Authoring
import ProgressTable.Form.Descriptor
import ProgressTable.Form.Submission
import ProgressTable.Form.Validation
import ProgressTable.Form.Wording
import ProgressTable.Journal
import ProgressTable.Json.Error
import ProgressTable.Json.Lexeme
import ProgressTable.Json.Number
import ProgressTable.Json.Quoted
import ProgressTable.Json.Reader
import ProgressTable.Json.Value
import ProgressTable.Lookup.Backend
import ProgressTable.Lookup.Call
import ProgressTable.Lookup.Store
import ProgressTable.Markup.Cell
import ProgressTable.Markup.Document
import ProgressTable.Markup.Html
import ProgressTable.Markup.Line
import ProgressTable.Markup.Separator
import ProgressTable.Markup.Table
import ProgressTable.Markup.Token
import ProgressTable.Proofs.Command.EditCycle
import ProgressTable.Proofs.Command.ShownLabel
import ProgressTable.Proofs.Element.Config
import ProgressTable.Proofs.Form.Prefill
import ProgressTable.Proofs.Form.Printed
import ProgressTable.Proofs.Form.Slots
import ProgressTable.Proofs.Journal
import ProgressTable.Proofs.Json.Number
import ProgressTable.Proofs.Json.Reader
import ProgressTable.Proofs.Json.Record
import ProgressTable.Proofs.Json.Spelling
import ProgressTable.Proofs.Json.Value
import ProgressTable.Proofs.Markup.AuthoredRow
import ProgressTable.Proofs.Markup.Cell
import ProgressTable.Proofs.Markup.Document
import ProgressTable.Proofs.Markup.Html
import ProgressTable.Proofs.Markup.Locality
import ProgressTable.Proofs.Markup.Separator
import ProgressTable.Proofs.Markup.Token
import ProgressTable.Proofs.Text.Blank
import ProgressTable.Proofs.Text.Dict
import ProgressTable.Proofs.Text.Lines
import ProgressTable.Proofs.Text.Numeral
import ProgressTable.Proofs.Text.Pattern
import ProgressTable.Settings.Basic
import ProgressTable.Settings.Conversion
import ProgressTable.Settings.Layers
import ProgressTable.Settings.Tree
import ProgressTable.Text.Basic
import ProgressTable.Text.Blank
import ProgressTable.Text.Cased
import ProgressTable.Text.DecimalDigit
import ProgressTable.Text.Dict
import ProgressTable.Text.Escaped
import ProgressTable.Text.Lowercase
import ProgressTable.Text.Numeral
import ProgressTable.Text.Pattern
import ProgressTable.Text.Unprintable
import ProgressTable.Toml.Document
import ProgressTable.Toml.Item
import ProgressTable.Toml.Moment
import ProgressTable.Toml.Scalar
import ProgressTable.Toml.Scan
import ProgressTable.Toml.Value
import ProgressTable.Word
import ProgressTable.Main
import ProgressTable.Proofs.Markup.Trace
import ProgressTable.Proofs.Markup.FailedLookup
import ProgressTable.Proofs.Element.Isolation
import ProgressTable.Proofs.Markup.RowOutcome
import ProgressTable.Proofs.Markup.Tag
import ProgressTable.Proofs.Markup.Structure
import ProgressTable.Proofs.Form.Described
import ProgressTable.Proofs.Form.EverySlot
import ProgressTable.Proofs.Element.Width
import ProgressTable.Proofs.CommandLine.FileSystem
import ProgressTable.Proofs.CommandLine.Directory
import ProgressTable.Proofs.Form.Effective
import ProgressTable.Proofs.CommandLine.Request
import ProgressTable.Proofs.CommandLine.Effect
import ProgressTable.Proofs.CommandLine.Extra
import ProgressTable.Proofs.Text.Cut
import ProgressTable.Proofs.Markup.RowSource
import ProgressTable.Proofs.Markup.OnePass
import ProgressTable.Proofs.Markup.OpenToken
import ProgressTable.Proofs.Markup.LineEnding
import ProgressTable.Proofs.Markup.Doubling
import ProgressTable.Proofs.DateRange
import ProgressTable.Proofs.CommandLine.ExtraPlacement
import ProgressTable.Proofs.Calendar.Offset
import ProgressTable.Proofs.Markup.Shown
import ProgressTable.Proofs.Json.RoundTrip
import ProgressTable.Proofs.Settings.Overlay
import ProgressTable.Proofs.Settings.Key
import ProgressTable.Proofs.CommandLine.Settings
import ProgressTable.Proofs.Form.Spelling
