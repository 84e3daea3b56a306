import Switchboard.Actor.Basic
import Switchboard.Actor.Connection
import Switchboard.Actor.Handler
import Switchboard.Actor.Script
import Switchboard.Client.Answer
import Switchboard.Client.Backoff
import Switchboard.Client.Config
import Switchboard.Client.Error
import Switchboard.Client.Retry
import Switchboard.Client.Scheme
import Switchboard.Client.Stream
import Switchboard.Client.Streaming
import Switchboard.Client.Trust
import Switchboard.Client.Unary
import Switchboard.Client.Watch
import Switchboard.Decimal.Binary64
import Switchboard.Decimal.Notation
import Switchboard.Decimal.Shortest
import Switchboard.Decimal.Truncated
import Switchboard.Digest.Sha1
import Switchboard.Frame.Envelope
import Switchboard.Frame.Error
import Switchboard.Frame.Framing
import Switchboard.Frame.Grpc
import Switchboard.Frame.Lines
import Switchboard.Frame.Varint
import Switchboard.Gateway.Basic
import Switchboard.Gateway.Config
import Switchboard.Gateway.Error
import Switchboard.Gateway.Route
import Switchboard.Gateway.Session
import Switchboard.Gateway.Tls
import Switchboard.Gateway.Unary
import Switchboard.Gateway.Upgrade
import Switchboard.Http.Headers
import Switchboard.Http.Request
import Switchboard.Http.Target
import Switchboard.Json.Any
import Switchboard.Json.Basic
import Switchboard.Json.Convert
import Switchboard.Json.Document
import Switchboard.Json.Float
import Switchboard.Json.Guess
import Switchboard.Json.Reader
import Switchboard.Json.Writer
import Switchboard.Keyed
import Switchboard.Message.Basic
import Switchboard.Message.Codec
import Switchboard.Message.Id
import Switchboard.Message.Params
import Switchboard.Message.RpcError
import Switchboard.Message.RpcErrorRecord
import Switchboard.Net.Ip
import Switchboard.Net.SocketAddress
import Switchboard.Proofs.Actor.Discretion
import Switchboard.Proofs.Actor.Dispatch
import Switchboard.Proofs.Actor.Oblivious
import Switchboard.Proofs.Actor.Registration
import Switchboard.Proofs.Actor.Typed
import Switchboard.Proofs.Client.Backoff
import Switchboard.Proofs.Client.CallHeaders
import Switchboard.Proofs.Client.Unary
import Switchboard.Proofs.Decimal.Numeral
import Switchboard.Proofs.Decimal.Range
import Switchboard.Proofs.Except
import Switchboard.Proofs.Frame.Carriage
import Switchboard.Proofs.Frame.Decoding
import Switchboard.Proofs.Frame.Envelope
import Switchboard.Proofs.Frame.Framing
import Switchboard.Proofs.Frame.Grpc
import Switchboard.Proofs.Frame.Holding
import Switchboard.Proofs.Frame.Lines
import Switchboard.Proofs.Gateway.Composition
import Switchboard.Proofs.Gateway.Discretion
import Switchboard.Proofs.Gateway.OwnAnswer
import Switchboard.Proofs.Gateway.Parity
import Switchboard.Proofs.Gateway.Route
import Switchboard.Proofs.Gateway.Tokens
import Switchboard.Proofs.Gateway.Unary
import Switchboard.Proofs.History
import Switchboard.Proofs.Http.Headers
import Switchboard.Proofs.Interleaving
import Switchboard.Proofs.Json.Canonical
import Switchboard.Proofs.Json.Guess
import Switchboard.Proofs.Json.Layout
import Switchboard.Proofs.Json.Number
import Switchboard.Proofs.Json.OneLine
import Switchboard.Proofs.Json.Quote
import Switchboard.Proofs.Json.Record
import Switchboard.Proofs.Json.RoundTrip
import Switchboard.Proofs.Json.Settled
import Switchboard.Proofs.Json.Written
import Switchboard.Proofs.Keyed
import Switchboard.Proofs.Message.ErrorRecord
import Switchboard.Proofs.Message.Grammar
import Switchboard.Proofs.Message.RoundTrip
import Switchboard.Proofs.Session.AnyEnd
import Switchboard.Proofs.Session.Clean
import Switchboard.Proofs.Session.Conduct
import Switchboard.Proofs.Session.Effect
import Switchboard.Proofs.Session.Ending
import Switchboard.Proofs.Session.FrameLimit
import Switchboard.Proofs.Session.Input
import Switchboard.Proofs.Session.Order
import Switchboard.Proofs.Session.Output
import Switchboard.Proofs.Session.Progress
import Switchboard.Proofs.Session.Reading
import Switchboard.Proofs.Session.Sole
import Switchboard.Proofs.Session.Task
import Switchboard.Proofs.Streaming.Book
import Switchboard.Proofs.Streaming.Chronicle
import Switchboard.Proofs.Streaming.Clock
import Switchboard.Proofs.Streaming.Correlation
import Switchboard.Proofs.Streaming.Deliveries
import Switchboard.Proofs.Streaming.Incidents
import Switchboard.Proofs.Streaming.Incoming
import Switchboard.Proofs.Streaming.Links
import Switchboard.Proofs.Streaming.Pending
import Switchboard.Proofs.Streaming.Slot
import Switchboard.Proofs.Streaming.Standing
import Switchboard.Proofs.Streaming.Steps
import Switchboard.Proofs.Streaming.Teardown
import Switchboard.Proofs.Streaming.Traffic
import Switchboard.Proofs.Streaming.Turn
import Switchboard.Proofs.Streaming.Unforeseen
import Switchboard.Proofs.Streaming.Wait
import Switchboard.Proofs.Text.Plain
import Switchboard.Proofs.Watch.Alone
import Switchboard.Proofs.Watch.Closing
import Switchboard.Proofs.Watch.Law
import Switchboard.Proofs.Watch.Retry
import Switchboard.Proofs.Watch.Tending
import Switchboard.Rehearsal.Client
import Switchboard.Rehearsal.Session
import Switchboard.Run
import Switchboard.Sample.Handlers
import Switchboard.Sample.Tls
import Switchboard.Sample.Values
import Switchboard.Text.Base64
import Switchboard.Text.Blank
import Switchboard.Text.CodePoints
import Switchboard.Text.CombiningClass
import Switchboard.Text.Composed
import Switchboard.Text.Composites
import Switchboard.Text.Debug
import Switchboard.Text.Direction
import Switchboard.Text.GraphemeExtend
import Switchboard.Text.Joining
import Switchboard.Text.Lossy
import Switchboard.Text.Marks
import Switchboard.Text.Numeral
import Switchboard.Text.Octets
import Switchboard.Text.Pem
import Switchboard.Text.Unprinted
import Switchboard.Url.Basic
import Switchboard.Url.Domain
import Switchboard.Url.DomainMapping
import Switchboard.Url.Fault
import Switchboard.Url.Host
import Switchboard.Url.Percent
import Switchboard.Url.Punycode
