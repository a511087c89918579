import LineCommands.Argument.Kind
import LineCommands.Argument.Parser
import LineCommands.Argument.Read
import LineCommands.Argument.Value
import LineCommands.Bytes
import LineCommands.Command.Basic
import LineCommands.Command.Signature
import LineCommands.Cursor.Basic
import LineCommands.Cursor.Line
import LineCommands.Cursor.Queue
import LineCommands.Cursor.Request
import LineCommands.Error
import LineCommands.Invocation
import LineCommands.Json.Read
import LineCommands.Json.Value
import LineCommands.Main
import LineCommands.NameMap
import LineCommands.Number.Binary
import LineCommands.Number.Decimal
import LineCommands.Number.Integer
import LineCommands.Number.Shortest
import LineCommands.Registry.Basic
import LineCommands.Registry.Run
import LineCommands.Session.Basic
import LineCommands.Session.Options
import LineCommands.Settings
import LineCommands.Text.GraphemeExtend
import LineCommands.Text.Printable
import LineCommands.Text.Quoted
import LineCommands.Text.Utf8
import LineCommands.Token.Escape
import LineCommands.Token.Scan
import LineCommands.Toml.Read
import LineCommands.Toml.Value
import LineCommands.Proofs.Serve
import LineCommands.Proofs.Spelling
import LineCommands.Proofs.TokenRoundTrip
import LineCommands.Proofs.QueueRefinement
import LineCommands.Proofs.FailedRequest
import LineCommands.Proofs.CursorAgreement
import LineCommands.Proofs.EscapeGrammar
import LineCommands.Proofs.IntegerTokens
import LineCommands.Proofs.NameMapView
import LineCommands.Proofs.RegistryRefinement
import LineCommands.Proofs.ArgumentDiagnostics
import LineCommands.Proofs.AfterRemainder
import LineCommands.Proofs.RequiredOptional
import LineCommands.Proofs.TextBytes
import LineCommands.Proofs.TokenScan
import LineCommands.Proofs.LinePositions
import LineCommands.Proofs.ErrorPositions
import LineCommands.Proofs.CodecRoundTrip
import LineCommands.Proofs.SettingsApply
import LineCommands.Proofs.HelpPages
import LineCommands.Proofs.EscapeAlignment
import LineCommands.Proofs.OperationDomains
