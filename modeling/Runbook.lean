import Runbook.Capture.Address
import Runbook.Capture.Fetch
import Runbook.Capture.Frame
import Runbook.Capture.Listener
import Runbook.Capture.Session
import Runbook.Cli.Args
import Runbook.Cli.Command
import Runbook.Codec.Checksum
import Runbook.Codec.Inflate
import Runbook.Condition
import Runbook.Config.Basic
import Runbook.Config.Decode
import Runbook.Config.Load
import Runbook.Files.Image
import Runbook.Files.Store
import Runbook.Json.Error
import Runbook.Json.Parse
import Runbook.Json.Value
import Runbook.Main
import Runbook.Network
import Runbook.Number.Binary64
import Runbook.Number.Numeral
import Runbook.Number.Shortest
import Runbook.Params.Lenient
import Runbook.Picture.Jpeg
import Runbook.Picture.Match
import Runbook.Picture.Png
import Runbook.Picture.SummedArea
import Runbook.Proofs.Capture.FirstReply
import Runbook.Proofs.Capture.Buffer
import Runbook.Proofs.Run.Unrolled
import Runbook.Proofs.Run.OwnFaults
import Runbook.Proofs.Run.FailFast
import Runbook.Proofs.Run.NestingDepth
import Runbook.Proofs.Run.Click
import Runbook.Proofs.Run.CallOrder
import Runbook.Proofs.Run.NotifyMail
import Runbook.Proofs.Config.Environment
import Runbook.Proofs.Config.Sections
import Runbook.Proofs.Yaml.EventSteps
import Runbook.Proofs.Yaml.EventGrammar
import Runbook.Proofs.Config.Precedence
import Runbook.Proofs.Number.FloatBits
import Runbook.Proofs.Number.IntegerRounding
import Runbook.Proofs.Params.IntegerNumeral
import Runbook.Proofs.Sheet.CellReference
import Runbook.Proofs.Condition.Rules
import Runbook.Report
import Runbook.Run.Desk
import Runbook.Run.Executor
import Runbook.Run.Fault
import Runbook.Run.Handlers
import Runbook.Run.Trace
import Runbook.Sheet.CellRef
import Runbook.Sheet.CellValue
import Runbook.Text.Blank
import Runbook.Text.Printable
import Runbook.Workflow.Load
import Runbook.Workflow.Step
import Runbook.Workflow.StepKind
import Runbook.Workflow.StepPath
import Runbook.Yaml.Document
import Runbook.Yaml.Event
import Runbook.Yaml.Event.Parse
import Runbook.Yaml.Mark
import Runbook.Yaml.Scalar
import Runbook.Yaml.Token
import Runbook.Yaml.Token.Cursor
import Runbook.Yaml.Token.Stream
import Runbook.Yaml.Token.Text
import Runbook.Proofs.Workflow.Grammar
import Runbook.Proofs.Workflow.RoundTrip
import Runbook.Proofs.Json.ReadString
import Runbook.Proofs.Json.ReadNumber
import Runbook.Proofs.Json.ReadPretty
import Runbook.Proofs.Workflow.TextRoundTrip
import Runbook.Proofs.Number.FloatOrder
import Runbook.Proofs.Number.FloatRounding
import Runbook.Proofs.Number.FloatArithmetic
import Runbook.Proofs.Picture.Matching
import Runbook.Proofs.Picture.AreaSums
import Runbook.Proofs.Number.ExactIntegers
import Runbook.Proofs.Picture.BinarySums
import Runbook.Proofs.Workflow.PathText
import Runbook.Proofs.Run.DistinctPaths
