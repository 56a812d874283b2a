import Docblock.Codec
import Docblock.Collector
import Docblock.CommandLine.Arguments
import Docblock.CommandLine.Run
import Docblock.CommandLine.Usage
import Docblock.CommandLine.Version
import Docblock.Config
import Docblock.Config.Display
import Docblock.Config.Load
import Docblock.Config.Read
import Docblock.Context
import Docblock.Conversion
import Docblock.Decimal.Binary64
import Docblock.Decimal.Shortest
import Docblock.Defect
import Docblock.Encoding
import Docblock.Encoding.Base64
import Docblock.Encoding.Error
import Docblock.Encoding.SingleByte
import Docblock.Encoding.Utf16
import Docblock.Encoding.Utf8
import Docblock.Failure
import Docblock.FileSystem
import Docblock.Fragment
import Docblock.Line
import Docblock.Log
import Docblock.Main
import Docblock.Moment
import Docblock.Numeral
import Docblock.Path
import Docblock.Platform
import Docblock.Platform.Standard
import Docblock.Report
import Docblock.Section
import Docblock.Sentinel
import Docblock.Stats
import Docblock.Text.Basic
import Docblock.Text.Blank
import Docblock.Text.Cased
import Docblock.Text.Codes
import Docblock.Text.Digit
import Docblock.Text.Letter
import Docblock.Text.Lower
import Docblock.Text.Printable
import Docblock.Text.Quoted
import Docblock.Text.Ranges
import Docblock.Value
import Docblock.Yaml.Assembly
import Docblock.Yaml.Cursor
import Docblock.Yaml.Document
import Docblock.Yaml.Edition
import Docblock.Yaml.Fault
import Docblock.Yaml.Graph
import Docblock.Yaml.Literal
import Docblock.Yaml.Load
import Docblock.Yaml.Resolve
import Docblock.Yaml.Scalar
import Docblock.Yaml.Tag
import Docblock.Yaml.Token
import Docblock.Yield
import Docblock.Proofs.Scan
import Docblock.Proofs.OpenTail
import Docblock.Proofs.Acceptance
import Docblock.Proofs.Lines
import Docblock.Proofs.Occurrence
import Docblock.Proofs.Provenance
import Docblock.Proofs.Output
import Docblock.Proofs.Idempotence
import Docblock.Proofs.Reachable
import Docblock.Proofs.Resumption
import Docblock.Proofs.LineBreak
import Docblock.Proofs.Destination
import Docblock.Proofs.Continuation
import Docblock.Proofs.Accounting
import Docblock.Proofs.Refusal
import Docblock.Proofs.ExitStatus
import Docblock.Proofs.Escape
import Docblock.Proofs.Earliest
import Docblock.Proofs.Codec
import Docblock.Proofs.Verbatim
import Docblock.Proofs.Origin
import Docblock.Proofs.Session
import Docblock.Proofs.Commented
import Docblock.Proofs.Delimiter
import Docblock.Proofs.Description
import Docblock.Proofs.Division
import Docblock.Proofs.Reading
import Docblock.Proofs.LetterCase
import Docblock.Proofs.Trace
import Docblock.Proofs.Verbosity
import Docblock.Proofs.Lossless
