import LedgerLogin.Abi
import LedgerLogin.Address
import LedgerLogin.Api.Error
import LedgerLogin.Api.MediaType
import LedgerLogin.Api.Request
import LedgerLogin.Api.Router
import LedgerLogin.Authenticator
import LedgerLogin.Backend
import LedgerLogin.Bridge.Command
import LedgerLogin.Bridge.Frame
import LedgerLogin.Bridge.Loop
import LedgerLogin.Bytes
import LedgerLogin.Bytes.Base64
import LedgerLogin.Bytes.Hex
import LedgerLogin.ChatName
import LedgerLogin.CommandLine.Invocation
import LedgerLogin.CommandLine.Options
import LedgerLogin.CommandLine.Program
import LedgerLogin.CommandLine.SocketAddress
import LedgerLogin.Commitment
import LedgerLogin.Config
import LedgerLogin.Config.Build
import LedgerLogin.Credentials
import LedgerLogin.Curve.Modular
import LedgerLogin.Curve.Secp256k1
import LedgerLogin.Decision
import LedgerLogin.Failure
import LedgerLogin.Gsp.NameState
import LedgerLogin.Gsp.Processor
import LedgerLogin.Gsp.Read
import LedgerLogin.Hash.Keccak
import LedgerLogin.Hash.Sha256
import LedgerLogin.Inquiry
import LedgerLogin.Json.Document
import LedgerLogin.Json.Double
import LedgerLogin.Json.Number
import LedgerLogin.Json.Record
import LedgerLogin.Json.Token
import LedgerLogin.Json.Value
import LedgerLogin.Ledger.History
import LedgerLogin.Ledger.Read
import LedgerLogin.LoginData
import LedgerLogin.Main
import LedgerLogin.Metrics
import LedgerLogin.Payload.Varint
import LedgerLogin.Payload.Wire
import LedgerLogin.Resolver
import LedgerLogin.Rpc.Call
import LedgerLogin.Rpc.Hexadecimal
import LedgerLogin.Rpc.Http
import LedgerLogin.Rpc.Node
import LedgerLogin.Service
import LedgerLogin.Signature
import LedgerLogin.SignedPassword
import LedgerLogin.StringMap
import LedgerLogin.Text.Blank
import LedgerLogin.Text.Quoted
import LedgerLogin.Text.Visible
import LedgerLogin.Word64
import LedgerLogin.Proofs.Outcome
import LedgerLogin.Proofs.Commitment.Binding
import LedgerLogin.Proofs.Ledger.Authority
import LedgerLogin.Proofs.Ledger.Events
import LedgerLogin.Proofs.Resolver.FromHistory
import LedgerLogin.Proofs.Curve.Modular
import LedgerLogin.Proofs.Curve.Primes
import LedgerLogin.Proofs.Curve.Group
import LedgerLogin.Proofs.Curve.Order
import LedgerLogin.Proofs.Signature.Nonce
import LedgerLogin.Proofs.Signature.Recovery
import LedgerLogin.Proofs.Ledger.Interleaving
import LedgerLogin.Proofs.Resolver.AmidEvents
import LedgerLogin.Proofs.Bytes.Digits
import LedgerLogin.Proofs.LoginData.RoundTrip
import LedgerLogin.Proofs.Bridge.Login
import LedgerLogin.Proofs.ChatName.RoundTrip
import LedgerLogin.Proofs.Service.Acceptance
import LedgerLogin.Proofs.Service.SignedLogin
import LedgerLogin.Proofs.Bytes.Canonical
import LedgerLogin.Proofs.Payload.Shortest
import LedgerLogin.Proofs.ChatName.Bijection
import LedgerLogin.Proofs.LoginData.Lossless
import LedgerLogin.Proofs.Inquiry.World
import LedgerLogin.Proofs.Backend.Failure
import LedgerLogin.Proofs.Service.Withholding
import LedgerLogin.Proofs.Inquiry.Ensures
import LedgerLogin.Proofs.Service.Consistency
import LedgerLogin.Proofs.Backend.Blame
import LedgerLogin.Proofs.Bridge.Stream
import LedgerLogin.Proofs.Service.Staleness
import LedgerLogin.Proofs.Abi.Decoder
import LedgerLogin.Proofs.Hash.Evaluation
import LedgerLogin.Proofs.Ledger.Contracts
import LedgerLogin.Proofs.Rpc.Hexadecimal
import LedgerLogin.Proofs.Rpc.LedgerNode
import LedgerLogin.Proofs.Bridge.CutStream
import LedgerLogin.Proofs.Metrics.Counters
import LedgerLogin.Proofs.Service.Accounting
import LedgerLogin.Proofs.Json.Records
import LedgerLogin.Proofs.Rpc.GspNode
import LedgerLogin.Proofs.Service.OutdatedReply
import LedgerLogin.Proofs.Json.RoundTrip
import LedgerLogin.Proofs.Api.Bodies
import LedgerLogin.Proofs.Service.Entrances
import LedgerLogin.Proofs.Api.Concealment
import LedgerLogin.Proofs.Abi.Layout
import LedgerLogin.Proofs.Payload.Grammar
import LedgerLogin.Proofs.StringMap.Override
import LedgerLogin.Proofs.LoginData.Message
import LedgerLogin.Proofs.LoginData.Merging
import LedgerLogin.Proofs.LoginData.Truncation
import LedgerLogin.Proofs.Resolver.Decay
import LedgerLogin.Proofs.Bytes.Order
import LedgerLogin.Proofs.Credentials.ExtraData
import LedgerLogin.Proofs.Service.Alternatives
import LedgerLogin.Proofs.Rpc.ViewReply
import LedgerLogin.Proofs.Bridge.Grammar
import LedgerLogin.Proofs.Address.Spelling
import LedgerLogin.Proofs.Rpc.Quantity
import LedgerLogin.Proofs.Json.Written
import LedgerLogin.Proofs.Json.Readers
import LedgerLogin.Proofs.Json.ReadBack
import LedgerLogin.Proofs.Inquiry.Sequence
import LedgerLogin.Proofs.Json.Fields
import LedgerLogin.Proofs.Config.Reading
import LedgerLogin.Proofs.Rpc.Discovery
import LedgerLogin.Proofs.Config.Discoveries
import LedgerLogin.Proofs.Config.Realisation
