import GatewayClient.Bytes
import GatewayClient.Text.Utf8
import GatewayClient.MessagePack.Value
import GatewayClient.MessagePack.Writer
import GatewayClient.MessagePack.Reader
import GatewayClient.MessagePack.Dictionary
import GatewayClient.MessagePack.Packed
import GatewayClient.Frame
import GatewayClient.Payload.Basic
import GatewayClient.Payload.ReplyId
import GatewayClient.Payload.Codec
import GatewayClient.Json.Basic
import GatewayClient.Json.Reader
import GatewayClient.Json.Quoted
import GatewayClient.CloseReason
import GatewayClient.Binary64.Basic
import GatewayClient.Binary64.Decimal
import GatewayClient.Binary64.Reader
import GatewayClient.Clock
import GatewayClient.RetryPolicy
import GatewayClient.Watchdog
import GatewayClient.Registry
import GatewayClient.Registry.Operation
import GatewayClient.Connection.Phase
import GatewayClient.Token.Memory
import GatewayClient.Text.Digits
import GatewayClient.Text.Split
import GatewayClient.Text.Percent
import GatewayClient.Text.FormEncoding
import GatewayClient.View
import GatewayClient.Connection.Turn
import GatewayClient.Connection.Basic
import GatewayClient.Connection.Operation
import GatewayClient.Gateway.Basic
import GatewayClient.Gateway.Turn
import GatewayClient.Bootstrap
import GatewayClient.Address.Ipv4
import GatewayClient.Address.Ipv6
import GatewayClient.Address.Punycode
import GatewayClient.Address.Idna
import GatewayClient.Address.Host
import GatewayClient.Address.Basic
import GatewayClient.Endpoint
import GatewayClient.Toml.Value
import GatewayClient.Toml.Strings
import GatewayClient.Toml.Scalar
import GatewayClient.Toml.Reader
import GatewayClient.Toml.Writer
import GatewayClient.Settings
import GatewayClient.Text.Hex
import GatewayClient.MessagePack.OfJson
import GatewayClient.Connection.Sockets
import GatewayClient.Connection.Session
import GatewayClient.Stage
import GatewayClient.Text.Trim
import GatewayClient.Files.Path
import GatewayClient.Files.System
import GatewayClient.Files.Tree
import GatewayClient.Files.Disk
import GatewayClient.Token.File
import GatewayClient.Settings.File
import GatewayClient.CommandLine.Arguments
import GatewayClient.CommandLine.Program
import GatewayClient.CommandLine.Trial
import GatewayClient.Socket.Basic
import GatewayClient.Text.Base64
import GatewayClient.Digest.Sha1
import GatewayClient.Socket.Wire
import GatewayClient.Socket.Handshake
import GatewayClient.CommandLine.Live
import GatewayClient.CommandLine.Log
import GatewayClient.Main
import GatewayClient.Proofs.Registry
import GatewayClient.Proofs.Connection.Run
import GatewayClient.Proofs.Connection.Transition
import GatewayClient.Proofs.Connection.Coupling
import GatewayClient.Proofs.Connection.Reports
import GatewayClient.Proofs.Connection.Retries
import GatewayClient.Proofs.Connection.Generations
import GatewayClient.Proofs.Reader
import GatewayClient.Proofs.MessagePack.Grammar
import GatewayClient.Proofs.MessagePack.Reader
import GatewayClient.Proofs.MessagePack.Writer
import GatewayClient.Proofs.MessagePack.Records
import GatewayClient.Proofs.MessagePack.Forms
import GatewayClient.Proofs.Payload.Body
import GatewayClient.Proofs.Payload.Decoding
import GatewayClient.Proofs.Payload.RoundTrip
import GatewayClient.Proofs.Watchdog
import GatewayClient.Proofs.Connection.Deadlines
import GatewayClient.Proofs.Connection.Sending
import GatewayClient.Proofs.Connection.Greeting
import GatewayClient.Proofs.Connection.Traffic
import GatewayClient.Proofs.Connection.Likeness
import GatewayClient.Proofs.Connection.Reset
import GatewayClient.Proofs.Connection.Slots
import GatewayClient.Proofs.Gateway.Actor
import GatewayClient.Proofs.Gateway.Ledger
import GatewayClient.Proofs.Bootstrap.Observation
import GatewayClient.Proofs.Gateway.Removal
import GatewayClient.Proofs.Gateway.Course
import GatewayClient.Proofs.Bootstrap.Following
import GatewayClient.Proofs.Bootstrap.Mounted
import GatewayClient.Proofs.Bootstrap.Mounting
import GatewayClient.Proofs.Bootstrap.Staging
import GatewayClient.Proofs.Connection.Quiescence
import GatewayClient.Proofs.Socket.Events
import GatewayClient.Proofs.Binary64.Decimal
import GatewayClient.Proofs.Toml.Strings
import GatewayClient.Proofs.Toml.Numbers
import GatewayClient.Proofs.Toml.Document
import GatewayClient.Proofs.Settings.RoundTrip
import GatewayClient.Proofs.Files.Tree
import GatewayClient.Proofs.CommandLine.Configuration
import GatewayClient.Proofs.Gateway.Orphans
import GatewayClient.Proofs.Binary64.Order
import GatewayClient.Proofs.Binary64.Power
import GatewayClient.Proofs.Settings.Validity
import GatewayClient.Proofs.RetryPolicy
import GatewayClient.Proofs.Connection.Silence
import GatewayClient.Proofs.Connection.Exhaustion
import GatewayClient.Proofs.Connection.Polling
import GatewayClient.Proofs.Gateway.Waking
import GatewayClient.Proofs.Connection.Frames
import GatewayClient.Proofs.Gateway.Lull
import GatewayClient.Proofs.Bootstrap.Remounting
import GatewayClient.Proofs.Registry.Calls
import GatewayClient.Proofs.Registry.Log
import GatewayClient.Proofs.Registry.Agreement
import GatewayClient.Proofs.Json.Grammar
import GatewayClient.Proofs.Json.Words
import GatewayClient.Proofs.Json.Reader
import GatewayClient.Proofs.Json.Spelling
import GatewayClient.Proofs.CloseReason
import GatewayClient.Proofs.Socket.Delivery
import GatewayClient.Proofs.Text.Ascii
import GatewayClient.Proofs.Address.Idna
import GatewayClient.Proofs.Address.Ipv4
import GatewayClient.Proofs.Address.Ipv6
import GatewayClient.Proofs.Address.Host
import GatewayClient.Proofs.Address.Reading
import GatewayClient.Proofs.Endpoint
import GatewayClient.Proofs.Files.Disk
import GatewayClient.Proofs.Token.File
import GatewayClient.Proofs.Frame
import GatewayClient.Proofs.Text.FormEncoding
import GatewayClient.Proofs.Bootstrap.Redirect
