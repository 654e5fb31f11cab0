import EditorBridge.Command.Line
import EditorBridge.Daemon.Client
import EditorBridge.Finding.Report
import EditorBridge.Finding.Pattern
import EditorBridge.Session.Serve
import EditorBridge.Config.Discovery
import EditorBridge.CommandLine.Flags
import EditorBridge.CommandLine.Help
import EditorBridge.Logging.Filter
import EditorBridge.Program.Run
import EditorBridge.Host.Run
import EditorBridge.StandIn.Run
import EditorBridge.Main
import EditorBridge.Proofs.Session.Transcript
import EditorBridge.Proofs.Session.Faults
import EditorBridge.Proofs.Session.StdoutLines
import EditorBridge.Proofs.Session.Tallies
import EditorBridge.Proofs.Session.Composition
import EditorBridge.Proofs.Session.Flushing
import EditorBridge.Proofs.Session.Endings
import EditorBridge.Proofs.Session.Scripts
import EditorBridge.Proofs.Text.Decoding
import EditorBridge.Proofs.Daemon.Program
import EditorBridge.Proofs.Daemon.Forwarding
import EditorBridge.Proofs.Files.Making
import EditorBridge.Proofs.Daemon.Scratch
import EditorBridge.Proofs.Command.Tokens
import EditorBridge.Proofs.Daemon.Commands
import EditorBridge.Proofs.Host.Launching
import EditorBridge.Proofs.Finding.Grammar
import EditorBridge.Proofs.Finding.Matching
import EditorBridge.Proofs.Config.Precedence
import EditorBridge.Proofs.Finding.RoundTrip
import EditorBridge.Proofs.Finding.Lines
import EditorBridge.Proofs.CommandLine.Switches
import EditorBridge.Proofs.Program.Stages
import EditorBridge.Proofs.Program.Logging
import EditorBridge.Proofs.Logging.Filters
import EditorBridge.Proofs.Config.Search
import EditorBridge.Proofs.Config.Discovery
import EditorBridge.Proofs.Toml.Keys
import EditorBridge.Proofs.Config.Sections
import EditorBridge.Proofs.Session.TokenOrder
import EditorBridge.Proofs.Text.Unquoting
import EditorBridge.Proofs.Command.Echo
import EditorBridge.Proofs.Text.LineCuts
import EditorBridge.Proofs.Session.InputLines
import EditorBridge.Proofs.CommandLine.RoundTrip
import EditorBridge.Proofs.StandIn.Calls
import EditorBridge.Proofs.StandIn.Suggestions
