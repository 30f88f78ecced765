import SocksGateway.Calendar.DateTime
import SocksGateway.Calendar.Duration
import SocksGateway.CommandLine.Options
import SocksGateway.CommandLine.Outcome
import SocksGateway.Config.Basic
import SocksGateway.Config.Location
import SocksGateway.Config.Schema
import SocksGateway.Config.SchemaError
import SocksGateway.Config.Validation
import SocksGateway.Config.Value
import SocksGateway.Engine.Basic
import SocksGateway.Engine.Decision
import SocksGateway.Engine.Proxies
import SocksGateway.Engine.Rules
import SocksGateway.Error
import SocksGateway.Files.FileTree
import SocksGateway.Gateway.Basic
import SocksGateway.Gateway.Configured
import SocksGateway.Gateway.Operation
import SocksGateway.Gateway.Shared
import SocksGateway.Log.Device
import SocksGateway.Log.Diagnostic
import SocksGateway.Log.DrainWorker
import SocksGateway.Log.Entry
import SocksGateway.Log.Level
import SocksGateway.Log.Mirror
import SocksGateway.Log.Pipeline
import SocksGateway.Log.Ring
import SocksGateway.Log.Sink
import SocksGateway.Main
import SocksGateway.Net.Address
import SocksGateway.Net.AddressText
import SocksGateway.Net.Block
import SocksGateway.Net.EndpointText
import SocksGateway.Net.LocalNetworks
import SocksGateway.Net.NetworkSet
import SocksGateway.Net.NetworkText
import SocksGateway.Number.Binary64
import SocksGateway.Policy.PolicyTable
import SocksGateway.Policy.ProcessName
import SocksGateway.Policy.Rule
import SocksGateway.Proxy.Basic
import SocksGateway.Proxy.Credentials
import SocksGateway.Proxy.Protocol
import SocksGateway.Proxy.Registry
import SocksGateway.Proxy.Relay
import SocksGateway.Text.Blank
import SocksGateway.Text.Casing
import SocksGateway.Text.CodeRange
import SocksGateway.Text.Description
import SocksGateway.Text.JsonString
import SocksGateway.Text.LowerCase
import SocksGateway.Text.Numeral
import SocksGateway.Text.Quoted
import SocksGateway.Text.Reader
import SocksGateway.Text.UnknownName
import SocksGateway.Text.Unprintable
import SocksGateway.Text.Utf8
import SocksGateway.Toml.Blanks
import SocksGateway.Toml.Document
import SocksGateway.Toml.Scalar
import SocksGateway.Toml.Text
import SocksGateway.Toml.Tree
import SocksGateway.Proofs.Net.LeadingBits
import SocksGateway.Proofs.Policy.Lookup
import SocksGateway.Proofs.Proxy.Lookup
import SocksGateway.Proofs.Routing.Law
import SocksGateway.Proofs.Gateway.History
import SocksGateway.Proofs.Policy.Revision
import SocksGateway.Proofs.Engine.Proxies
import SocksGateway.Proofs.Routing.Configured
import SocksGateway.Proofs.Routing.Independence
import SocksGateway.Proofs.Routing.RangeEffect
import SocksGateway.Proofs.Engine.Running
import SocksGateway.Proofs.Gateway.Release
import SocksGateway.Proofs.Net.Arrivals
import SocksGateway.Proofs.Policy.Product
import SocksGateway.Proofs.Gateway.Refusal
import SocksGateway.Proofs.Secrecy.Masking
import SocksGateway.Proofs.Secrecy.Passwords
import SocksGateway.Proofs.Log.Conservation
import SocksGateway.Proofs.Log.Threads
import SocksGateway.Proofs.Log.WakeUps
import SocksGateway.Proofs.Log.Progress
import SocksGateway.Proofs.Gateway.LastBatch
import SocksGateway.Proofs.Log.Framing
import SocksGateway.Proofs.Config.Validity
import SocksGateway.Proofs.Config.Meaning
import SocksGateway.Proofs.Config.Rearranged
import SocksGateway.Proofs.Gateway.Construction
import SocksGateway.Proofs.Gateway.Applied
import SocksGateway.Proofs.Gateway.Meaning
import SocksGateway.Proofs.Engine.RelayCalls
import SocksGateway.Proofs.Log.Leads
import SocksGateway.Proofs.Engine.Attempts
import SocksGateway.Proofs.Gateway.Lifecycle
import SocksGateway.Proofs.Routing.Integrity
import SocksGateway.Proofs.Log.Copy
import SocksGateway.Proofs.Gateway.LogSteps
import SocksGateway.Proofs.Gateway.Copy
import SocksGateway.Proofs.Log.Streaks
import SocksGateway.Proofs.Proxy.HandleTable
import SocksGateway.Proofs.Engine.Identity
import SocksGateway.Proofs.Gateway.Sharing
import SocksGateway.Proofs.Gateway.References
import SocksGateway.Proofs.Engine.Muted
import SocksGateway.Proofs.Files.Kinds
import SocksGateway.Proofs.Gateway.Akin
import SocksGateway.Proofs.Gateway.Verbosity
import SocksGateway.Proofs.Net.Membership
import SocksGateway.Proofs.Log.Window
import SocksGateway.Proofs.Log.Unmirrored
import SocksGateway.Proofs.Log.Reports
import SocksGateway.Proofs.Log.FanOut
import SocksGateway.Proofs.Net.WrittenAddress
import SocksGateway.Proofs.Net.WrittenEndpoint
import SocksGateway.Proofs.Net.WrittenNetwork
import SocksGateway.Proofs.Routing.RangeSets
import SocksGateway.Proofs.Text.AsciiCase
import SocksGateway.Proofs.Routing.RangeChange
import SocksGateway.Proofs.Routing.RangeSpelling
import SocksGateway.Proofs.Log.LineReader
import SocksGateway.Proofs.Config.FirstFault
import SocksGateway.Proofs.Policy.RuleStore
import SocksGateway.Proofs.Config.Forms
import SocksGateway.Proofs.Config.Respelled
import SocksGateway.Proofs.Log.Wordless
import SocksGateway.Proofs.Engine.Respelled
import SocksGateway.Proofs.Gateway.Namesake
import SocksGateway.Proofs.Gateway.Respelled
import SocksGateway.Proofs.Log.Clocks
import SocksGateway.Proofs.Text.CutText
import SocksGateway.Proofs.Log.CutLines
