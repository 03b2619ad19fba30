import Outline.Files.Directory
import Outline.Main
import Outline.Tree.Rows
import Outline.Tree.Trace
import Outline.Proofs.Dump.Rows
import Outline.Proofs.Dump.Session
import Outline.Proofs.Dump.Limit
import Outline.Proofs.Dump.Faithful
import Outline.Proofs.Dump.Streaming
import Outline.Proofs.Tree.Rows
import Outline.Proofs.Json.Grammar
import Outline.Proofs.Json.Ignored
import Outline.Proofs.Json.Scalar
import Outline.Proofs.Json.Fields
import Outline.Proofs.Json.Sound
import Outline.Proofs.Json.Complete
import Outline.Proofs.Json.Description
import Outline.Proofs.Json.Printed
import Outline.Proofs.Json.RoundTrip
import Outline.Proofs.Command.Agreement
import Outline.Proofs.Yaml.Depth
import Outline.Proofs.Record.Reload
import Outline.Proofs.Format.Registry
import Outline.Proofs.Tree.Traversal
import Outline.Proofs.Toml.Keys
import Outline.Proofs.Settings.Overlay
import Outline.Proofs.Settings.Precedence
import Outline.Proofs.Yaml.Flow
import Outline.Proofs.Yaml.Scalar
import Outline.Proofs.Yaml.Scanning
import Outline.Proofs.Record.Agreement
import Outline.Proofs.Dump.Guard
import Outline.Proofs.Tree.Paths
import Outline.Proofs.Treeviz.Records
import Outline.Proofs.Treeviz.Faithful
import Outline.Proofs.Record.Codec
import Outline.Proofs.Record.IntegerText
import Outline.Proofs.Record.Checking
import Outline.Proofs.Dump.Trace
import Outline.Proofs.Yaml.Integer
import Outline.Proofs.Dump.Marks
import Outline.Proofs.Files.Extension
import Outline.Proofs.Record.Loading
import Outline.Proofs.Record.IntegerLimits
