import ProxyChain.Chain.Compile
import ProxyChain.Chain.CoreConfig
import ProxyChain.Chain.Export
import ProxyChain.Chain.Hop
import ProxyChain.Chain.Port
import ProxyChain.CommandLine.Outcome
import ProxyChain.CommandLine.Request
import ProxyChain.Decimal.Binary64
import ProxyChain.Decimal.Shortest
import ProxyChain.Exchange
import ProxyChain.FileTree
import ProxyChain.Helper.Basic
import ProxyChain.Helper.Command
import ProxyChain.Helper.Hysteria
import ProxyChain.Helper.Naive
import ProxyChain.Helper.Render
import ProxyChain.Json.Basic
import ProxyChain.Json.Loose
import ProxyChain.Json.Number
import ProxyChain.Json.Parser
import ProxyChain.Json.Printer
import ProxyChain.Json.Scanner
import ProxyChain.Json.Skip
import ProxyChain.Json.Typed
import ProxyChain.Link.Base64Url
import ProxyChain.Link.Basic
import ProxyChain.Main
import ProxyChain.Outbound.Document
import ProxyChain.Outbound.Endpoint
import ProxyChain.Outbound.Hysteria
import ProxyChain.Outbound.Multiplex
import ProxyChain.Outbound.Tls
import ProxyChain.Outbound.Trojan
import ProxyChain.Path
import ProxyChain.Profile.Basic
import ProxyChain.Profile.Display
import ProxyChain.Profile.Document
import ProxyChain.Profile.Kind
import ProxyChain.Profile.Multiplex
import ProxyChain.Profile.Payload
import ProxyChain.Proofs.Chain.Accounting
import ProxyChain.Proofs.Chain.Agreement
import ProxyChain.Proofs.Chain.Distinct
import ProxyChain.Proofs.Chain.Document
import ProxyChain.Proofs.Chain.Export
import ProxyChain.Proofs.Chain.Flaw
import ProxyChain.Proofs.Chain.Layout
import ProxyChain.Proofs.Chain.LocalPort
import ProxyChain.Proofs.Chain.Plan
import ProxyChain.Proofs.Chain.Printable
import ProxyChain.Proofs.Chain.Reference
import ProxyChain.Proofs.Chain.Relay
import ProxyChain.Proofs.Chain.Supply
import ProxyChain.Proofs.Chain.Tag
import ProxyChain.Proofs.Chain.Traffic
import ProxyChain.Proofs.Decimal.Shortest
import ProxyChain.Proofs.Helper.Certificates
import ProxyChain.Proofs.Helper.Generation
import ProxyChain.Proofs.Helper.Hopping
import ProxyChain.Proofs.Helper.Login
import ProxyChain.Proofs.Helper.Members
import ProxyChain.Proofs.Helper.Wiring
import ProxyChain.Proofs.Json.Grammar
import ProxyChain.Proofs.Json.Loose
import ProxyChain.Proofs.Json.Members
import ProxyChain.Proofs.Json.Numeral
import ProxyChain.Proofs.Json.Orderly
import ProxyChain.Proofs.Json.Printable
import ProxyChain.Proofs.Json.Printed
import ProxyChain.Proofs.Link.Base64Url
import ProxyChain.Proofs.Link.Conveys
import ProxyChain.Proofs.Link.Dispatch
import ProxyChain.Proofs.Link.Spelling
import ProxyChain.Proofs.Outbound.Endpoint
import ProxyChain.Proofs.Outbound.Hysteria
import ProxyChain.Proofs.Outbound.Keys
import ProxyChain.Proofs.Outbound.Limit
import ProxyChain.Proofs.Outbound.Multiplex
import ProxyChain.Proofs.Outbound.Null
import ProxyChain.Proofs.Outbound.Saturation
import ProxyChain.Proofs.Outbound.Settled
import ProxyChain.Proofs.Outbound.Thinned
import ProxyChain.Proofs.Outbound.Tls
import ProxyChain.Proofs.Outbound.Trojan
import ProxyChain.Proofs.Path
import ProxyChain.Proofs.Profile.Extension
import ProxyChain.Proofs.Profile.Kind
import ProxyChain.Proofs.Profile.Payload
import ProxyChain.Proofs.Profile.Version
import ProxyChain.Proofs.Record.Edit
import ProxyChain.Proofs.Record.Extension
import ProxyChain.Proofs.Record.Layout
import ProxyChain.Proofs.Record.Truncation
import ProxyChain.Proofs.Session.Account
import ProxyChain.Proofs.Session.Close
import ProxyChain.Proofs.Session.Commission
import ProxyChain.Proofs.Session.Effect
import ProxyChain.Proofs.Session.FileName
import ProxyChain.Proofs.Session.Files
import ProxyChain.Proofs.Session.Frame
import ProxyChain.Proofs.Session.Furnish
import ProxyChain.Proofs.Session.Handover
import ProxyChain.Proofs.Session.History
import ProxyChain.Proofs.Session.Holdings
import ProxyChain.Proofs.Session.LatencyTest
import ProxyChain.Proofs.Session.Later
import ProxyChain.Proofs.Session.Lifetime
import ProxyChain.Proofs.Session.Lookup
import ProxyChain.Proofs.Session.Measurement
import ProxyChain.Proofs.Session.Phase
import ProxyChain.Proofs.Session.Provision
import ProxyChain.Proofs.Session.Reachable
import ProxyChain.Proofs.Session.Release
import ProxyChain.Proofs.Session.Resolution
import ProxyChain.Proofs.Session.Restart
import ProxyChain.Proofs.Session.Stage
import ProxyChain.Proofs.Session.Start
import ProxyChain.Proofs.Session.Teardown
import ProxyChain.Proofs.Session.Termination
import ProxyChain.Proofs.Session.Work
import ProxyChain.Proofs.Text.Cut
import ProxyChain.Proofs.Text.Integer
import ProxyChain.Proofs.Text.Line
import ProxyChain.Proofs.Text.Paragraph
import ProxyChain.Proofs.Text.Trim
import ProxyChain.Proofs.Wire.Declared
import ProxyChain.Proofs.Wire.Decoding
import ProxyChain.Proofs.Wire.Integer
import ProxyChain.Proofs.Wire.Offset
import ProxyChain.Proofs.Wire.Position
import ProxyChain.Proofs.Wire.Shortage
import ProxyChain.Proofs.Wire.Stable
import ProxyChain.Proofs.Wire.Text
import ProxyChain.Proofs.Wire.Value
import ProxyChain.Proofs.Wire.Yields
import ProxyChain.Proofs.Zlib.Stored
import ProxyChain.Record.Basic
import ProxyChain.Record.Layout
import ProxyChain.Rounds
import ProxyChain.Session.Basic
import ProxyChain.Session.Call
import ProxyChain.Session.Close
import ProxyChain.Session.LatencyTest
import ProxyChain.Session.Phases
import ProxyChain.Session.Rehearsal
import ProxyChain.Session.Run
import ProxyChain.Settings.Basic
import ProxyChain.Settings.File
import ProxyChain.Settings.Reader
import ProxyChain.Table
import ProxyChain.Text.Blank
import ProxyChain.Text.Cut
import ProxyChain.Text.Hidden
import ProxyChain.Text.Integer
import ProxyChain.Text.Line
import ProxyChain.Text.Quoted
import ProxyChain.Wire.Code
import ProxyChain.Wire.Cursor
import ProxyChain.Wire.Integer
import ProxyChain.Wire.Text
import ProxyChain.Wire.Value
import ProxyChain.Zlib.Bits
import ProxyChain.Zlib.Huffman
import ProxyChain.Zlib.Inflate
import ProxyChain.Zlib.Stream
