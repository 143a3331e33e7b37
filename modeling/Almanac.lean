import Almanac.Basic
import Almanac.Binary64.Basic
import Almanac.Binary64.Shortest
import Almanac.Calendar.Date
import Almanac.Draw.Source
import Almanac.Text.Case
import Almanac.Forecast.Generation
import Almanac.Json.Value
import Almanac.Text.Quoted
import Almanac.Json.Cursor
import Almanac.Json.StringReader
import Almanac.Json.Skip
import Almanac.Json.NumberReader
import Almanac.Json.Typed
import Almanac.Json.Record
import Almanac.Forecast.Wire
import Almanac.Http.Message
import Almanac.Network.Address
import Almanac.Settings.Basic
import Almanac.Text.Terminal
import Almanac.Settings.CommandLine
import Almanac.Tls.Der
import Almanac.Tls.Certificate
import Almanac.Tls.Curves
import Almanac.Tls.Pem
import Almanac.Tls.Identity
import Almanac.Startup.Basic
import Almanac.Main
import Almanac.Service.Basic
import Almanac.Proofs.Binary64.Exact
import Almanac.Proofs.Binary64.Nearest
import Almanac.Proofs.Binary64.Operations
import Almanac.Proofs.Binary64.Whole
import Almanac.Proofs.Calendar.Text
import Almanac.Proofs.Calendar.Numbering
import Almanac.Proofs.Calendar.Successor
import Almanac.Proofs.Draw.Ranged
import Almanac.Proofs.Draw.Uniform
import Almanac.Proofs.Json.Rendering
import Almanac.Proofs.Json.Numbers
import Almanac.Proofs.Text.Utf8
import Almanac.Proofs.Json.Strings
import Almanac.Proofs.Json.Skipping
import Almanac.Proofs.Json.Reading
import Almanac.Proofs.Json.Records
import Almanac.Proofs.Forecast.Binding
import Almanac.Proofs.Forecast.Days
import Almanac.Proofs.Forecast.Course
import Almanac.Proofs.Forecast.Draws
import Almanac.Proofs.Forecast.Entries
import Almanac.Proofs.Forecast.Conversion
import Almanac.Proofs.Forecast.Dates
import Almanac.Proofs.Json.Compact
import Almanac.Proofs.Json.Recovering
import Almanac.Proofs.Json.Decimals
import Almanac.Proofs.Json.Written
import Almanac.Proofs.Forecast.Rereading
import Almanac.Proofs.Forecast.Delivery
import Almanac.Proofs.Forecast.Scripted
import Almanac.Proofs.Forecast.Stepwise
import Almanac.Proofs.Text.Parts
import Almanac.Proofs.Http.MediaType
import Almanac.Proofs.Json.Extent
import Almanac.Proofs.Service.Serving
import Almanac.Proofs.Service.Deciding
import Almanac.Proofs.Service.Extent
import Almanac.Proofs.Service.Handling
import Almanac.Proofs.Service.History
import Almanac.Proofs.Service.Limiting
import Almanac.Proofs.Service.Logging
import Almanac.Proofs.Service.Serial
import Almanac.Proofs.Settings.Spelling
import Almanac.Proofs.Settings.Reading
import Almanac.Proofs.Startup.Encryption
import Almanac.Proofs.Startup.Serving
import Almanac.Proofs.Text.Case
