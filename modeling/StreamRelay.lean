import StreamRelay.Address.Basic
import StreamRelay.Address.Numeral
import StreamRelay.Address.V4
import StreamRelay.Address.V6
import StreamRelay.Bytes
import StreamRelay.CommandLine.Arguments
import StreamRelay.CommandLine.Parser
import StreamRelay.CommandLine.Usage
import StreamRelay.Conduit
import StreamRelay.Fault.Basic
import StreamRelay.Fault.System
import StreamRelay.Fault.Trail
import StreamRelay.Files
import StreamRelay.Header.Block
import StreamRelay.Header.Field
import StreamRelay.Journal
import StreamRelay.Main
import StreamRelay.Name.Basic
import StreamRelay.Name.Form
import StreamRelay.Name.Label
import StreamRelay.Network
import StreamRelay.Pipe
import StreamRelay.Program.Basic
import StreamRelay.Program.Relay
import StreamRelay.Program.Result
import StreamRelay.Proofs.CommandLine.Grammar
import StreamRelay.Proofs.CommandLine.Reading
import StreamRelay.Proofs.Conduit.Uses
import StreamRelay.Proofs.Fault.Walk
import StreamRelay.Proofs.Header.Block
import StreamRelay.Proofs.Header.Field
import StreamRelay.Proofs.Program.Choice
import StreamRelay.Proofs.Program.Copy
import StreamRelay.Proofs.Program.Scan
import StreamRelay.Proofs.Program.Settings
import StreamRelay.Proofs.Pump.Course
import StreamRelay.Proofs.Pump.Isolation
import StreamRelay.Proofs.Pump.Order
import StreamRelay.Proofs.Pump.Runs
import StreamRelay.Proofs.Pump.Session
import StreamRelay.Proofs.Pump.Settings
import StreamRelay.Proofs.Pump.Step
import StreamRelay.Proofs.Pump.Stop
import StreamRelay.Proofs.Pump.Workers
import StreamRelay.Proofs.Resolution.Chain
import StreamRelay.Proofs.Resolution.Spelling
import StreamRelay.Proofs.Resolution.Wording
import StreamRelay.Proofs.Run.Completion
import StreamRelay.Proofs.Run.Conduit
import StreamRelay.Proofs.Run.Copy
import StreamRelay.Proofs.Run.Count
import StreamRelay.Proofs.Run.Delivery
import StreamRelay.Proofs.Run.Exit
import StreamRelay.Proofs.Run.Finality
import StreamRelay.Proofs.Run.Forward
import StreamRelay.Proofs.Run.History
import StreamRelay.Proofs.Run.Mark
import StreamRelay.Proofs.Run.Milestones
import StreamRelay.Proofs.Run.Order
import StreamRelay.Proofs.Run.Progress
import StreamRelay.Proofs.Run.Refusal
import StreamRelay.Proofs.Run.Shutdown
import StreamRelay.Proofs.Run.Signal
import StreamRelay.Proofs.Run.Step
import StreamRelay.Proofs.Settings.Checks
import StreamRelay.Proofs.Settings.Headers
import StreamRelay.Proofs.Size.Accuracy
import StreamRelay.Proofs.Size.Fit
import StreamRelay.Proofs.Size.Reading
import StreamRelay.Proofs.Size.Rounding
import StreamRelay.Proofs.Text.Parts
import StreamRelay.Proofs.Url.Graphic
import StreamRelay.Pump.Basic
import StreamRelay.Pump.Session
import StreamRelay.Resolution.Lookup
import StreamRelay.Resolution.Phrases
import StreamRelay.Resolution.Verdict
import StreamRelay.Run.Drive
import StreamRelay.Run.Exit
import StreamRelay.Run.Failure
import StreamRelay.Run.Forward
import StreamRelay.Run.Machine
import StreamRelay.Run.Outcome
import StreamRelay.Run.Signal
import StreamRelay.Run.Status
import StreamRelay.Run.Transport
import StreamRelay.Run.Use
import StreamRelay.Scan
import StreamRelay.Settings
import StreamRelay.Size
import StreamRelay.Spinner
import StreamRelay.Text.Blank
import StreamRelay.Text.Case
import StreamRelay.Text.CodeTable
import StreamRelay.Text.CombiningClass
import StreamRelay.Text.Composition
import StreamRelay.Text.Direction
import StreamRelay.Text.Joining
import StreamRelay.Text.Lowercase
import StreamRelay.Text.Mark
import StreamRelay.Text.Pair
import StreamRelay.Text.Punycode
import StreamRelay.Text.Search
import StreamRelay.Text.Syllable
import StreamRelay.Url.Basic
import StreamRelay.Url.Host
import StreamRelay.Url.Parser
import StreamRelay.Url.Percent
