import KnxGateway.Argument
import KnxGateway.Bus.Basic
import KnxGateway.Bus.Memory
import KnxGateway.Bus.Operation
import KnxGateway.Bus.StatusPool
import KnxGateway.Client.Command
import KnxGateway.Client.Error
import KnxGateway.Client.Exchange
import KnxGateway.Client.OptionTable
import KnxGateway.Client.Reply
import KnxGateway.Client.Stream
import KnxGateway.Config.GatewayConfig
import KnxGateway.Config.Settings
import KnxGateway.Connection.ByteSink
import KnxGateway.Connection.Loopback
import KnxGateway.Connection.Outcome
import KnxGateway.Connection.Shared
import KnxGateway.Datapoint.Id
import KnxGateway.Datapoint.Registry
import KnxGateway.Datapoint.Type
import KnxGateway.Datapoint.Value
import KnxGateway.Dispatch.Dispatcher
import KnxGateway.Dispatch.Queue
import KnxGateway.Dispatch.RequestTask
import KnxGateway.Dispatch.World
import KnxGateway.Frame.Code
import KnxGateway.Frame.Error
import KnxGateway.Frame.Header
import KnxGateway.Frame.Request
import KnxGateway.Frame.Response
import KnxGateway.Gateway.Host
import KnxGateway.Gateway.ReadBuffer
import KnxGateway.Gateway.Session
import KnxGateway.Gateway.State
import KnxGateway.GroupAddress
import KnxGateway.Json.Reader
import KnxGateway.Json.Token
import KnxGateway.Json.Value
import KnxGateway.Main
import KnxGateway.Metrics
import KnxGateway.Peer.AllowList
import KnxGateway.Peer.Ip
import KnxGateway.Peer.IpText
import KnxGateway.Peer.NumericHost
import KnxGateway.Peer.Refusal
import KnxGateway.Table
import KnxGateway.Text.Ascii
import KnxGateway.Text.Blank
import KnxGateway.Text.Duration
import KnxGateway.Text.Hex
import KnxGateway.Text.Numeral
import KnxGateway.Text.Quoted
import KnxGateway.Text.Unprintable
import KnxGateway.Text.Utf8
import KnxGateway.Proofs.Text.Digits
import KnxGateway.Proofs.Text.Reading
import KnxGateway.Proofs.Text.HexPairs
import KnxGateway.Proofs.Config.Environment
import KnxGateway.Proofs.Json.Grammar
import KnxGateway.Proofs.Json.Lexing
import KnxGateway.Proofs.Json.Reading
import KnxGateway.Proofs.Config.RoundTrip
import KnxGateway.Proofs.Argument.Quoting
import KnxGateway.Proofs.Argument.Enclosing
import KnxGateway.Proofs.Argument.Conservation
import KnxGateway.Proofs.GroupAddress.Reading
import KnxGateway.Proofs.GroupAddress.Notations
import KnxGateway.Proofs.Datapoint.Notations
import KnxGateway.Proofs.Datapoint.Rendering
import KnxGateway.Proofs.Datapoint.Exactness
import KnxGateway.Proofs.Datapoint.FirstArgument
import KnxGateway.Proofs.Datapoint.Numbers
import KnxGateway.Proofs.Datapoint.Labels
import KnxGateway.Proofs.Datapoint.ByteSequences
import KnxGateway.Proofs.Datapoint.Display
import KnxGateway.Proofs.Frame.Decoding
import KnxGateway.Proofs.Frame.Message
import KnxGateway.Proofs.Argument.Separation
import KnxGateway.Proofs.Dispatch.Reception
import KnxGateway.Proofs.Dispatch.Transcript
import KnxGateway.Proofs.Dispatch.Replies
import KnxGateway.Proofs.Dispatch.Acceptance
import KnxGateway.Proofs.Client.Requests
import KnxGateway.Proofs.Client.ReplyStream
import KnxGateway.Proofs.Peer.Notation
import KnxGateway.Proofs.Peer.AllowList
import KnxGateway.Proofs.Bus.History
import KnxGateway.Proofs.Bus.LastValue
import KnxGateway.Proofs.Dispatch.Undisturbed
import KnxGateway.Proofs.Dispatch.WriteThenRead
import KnxGateway.Proofs.Dispatch.Independence
import KnxGateway.Proofs.Dispatch.BusRequests
import KnxGateway.Proofs.Dispatch.Interleaving
import KnxGateway.Proofs.Dispatch.LatestWrite
import KnxGateway.Proofs.Dispatch.RunLoop
import KnxGateway.Proofs.Dispatch.Ledger
import KnxGateway.Proofs.Gateway.Outcomes
import KnxGateway.Proofs.Gateway.LinkSteps
import KnxGateway.Proofs.Gateway.Moves
import KnxGateway.Proofs.Gateway.Service
import KnxGateway.Proofs.Gateway.Provenance
import KnxGateway.Proofs.Gateway.Admission
import KnxGateway.Proofs.Gateway.Settling
import KnxGateway.Proofs.Gateway.Pipelining
import KnxGateway.Proofs.Connection.LockOrder
import KnxGateway.Proofs.Gateway.ConnectionRegistry
import KnxGateway.Proofs.Gateway.Delivery
import KnxGateway.Proofs.Datapoint.Registrations
import KnxGateway.Proofs.Peer.DualStack
import KnxGateway.Proofs.Peer.Notice
import KnxGateway.Proofs.Gateway.Limits
