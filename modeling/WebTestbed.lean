import WebTestbed.Command.LoadReport
import WebTestbed.ErrorLog.Basic
import WebTestbed.Main
import WebTestbed.Proofs.Text.Utf8
import WebTestbed.Proofs.Text.Basic
import WebTestbed.Proofs.Text.Lines
import WebTestbed.Proofs.Http.Block
import WebTestbed.Proofs.Http.Concat
import WebTestbed.Proofs.Http.Render
import WebTestbed.Proofs.Action
import WebTestbed.Proofs.Probe.Poll
import WebTestbed.Proofs.Control.Record
import WebTestbed.Proofs.Control.Basic
import WebTestbed.Proofs.Control.Lifecycle
import WebTestbed.Proofs.Control.Forget
import WebTestbed.Proofs.Control.Evidence
import WebTestbed.Proofs.Host.Parts
import WebTestbed.Proofs.Host.Nesting
import WebTestbed.Proofs.Host.Credentials
import WebTestbed.Proofs.Host.Certificates
import WebTestbed.Proofs.ErrorLog.Forward
import WebTestbed.Proofs.Directive.Merge
import WebTestbed.Proofs.Host.Extras
import WebTestbed.Proofs.Directive.Assignment
import WebTestbed.Proofs.ErrorLog.Missed
import WebTestbed.Proofs.Host.Presets
import WebTestbed.Proofs.Host.Protocols
import WebTestbed.Proofs.Host.Install
import WebTestbed.Proofs.Text.Template
import WebTestbed.Proofs.Text.Segments
import WebTestbed.Proofs.Files.Removal
import WebTestbed.Proofs.Probe.Headers
import WebTestbed.Proofs.Probe.Certificate
import WebTestbed.Proofs.Files.Grown
import WebTestbed.Proofs.Files.Operation
import WebTestbed.Proofs.ServerRoot.Change
import WebTestbed.Proofs.ServerRoot.Conf
import WebTestbed.Proofs.Files.Making
import WebTestbed.Proofs.ServerRoot.Fresh
import WebTestbed.Proofs.ServerRoot.Documents
import WebTestbed.Proofs.ServerRoot.Modules
import WebTestbed.Proofs.Control.Waiting
import WebTestbed.Proofs.Http.Malformed
import WebTestbed.Proofs.Http.HeaderMap
import WebTestbed.Proofs.Directive.Building
import WebTestbed.Proofs.ErrorLog.Line
import WebTestbed.Proofs.ErrorLog.Ignored
import WebTestbed.Proofs.Lookup
import WebTestbed.Proofs.Settings.Ini
import WebTestbed.Proofs.Settings.Node
import WebTestbed.Proofs.Settings.Setting
import WebTestbed.Proofs.Settings.Load
import WebTestbed.Proofs.Settings.Port
import WebTestbed.Proofs.Command.LoadReport
import WebTestbed.Proofs.Http.LineEnding
import WebTestbed.Proofs.Probe.Command
import WebTestbed.Proofs.Deadline
