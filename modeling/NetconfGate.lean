import NetconfGate.Address
import NetconfGate.Bench.Carrier
import NetconfGate.Bench.Gate.Basic
import NetconfGate.Bench.Gate.Flow
import NetconfGate.Bench.Gate.Steps
import NetconfGate.Bench.Io
import NetconfGate.Bench.Network
import NetconfGate.Bench.Pipe
import NetconfGate.Bench.Span
import NetconfGate.Bench.Stream
import NetconfGate.Bench.Wire
import NetconfGate.Bridge.Basic
import NetconfGate.Bridge.Calls
import NetconfGate.Bridge.Crossing
import NetconfGate.Bridge.Error
import NetconfGate.Bytes
import NetconfGate.Channel.Acceptor
import NetconfGate.Channel.Attempt
import NetconfGate.Channel.CloseCall
import NetconfGate.Channel.Countdown
import NetconfGate.Channel.Course
import NetconfGate.Channel.Dial
import NetconfGate.Channel.Error
import NetconfGate.Channel.Group
import NetconfGate.Channel.Operation
import NetconfGate.Channel.Service
import NetconfGate.Cipher.Policy
import NetconfGate.CommandLine.Command
import NetconfGate.CommandLine.Grammar
import NetconfGate.CommandLine.Usage
import NetconfGate.Configuration
import NetconfGate.Crypto.Argon2
import NetconfGate.Crypto.Blake2b
import NetconfGate.Crypto.Ed25519
import NetconfGate.Crypto.PrimeCurve
import NetconfGate.Crypto.Row
import NetconfGate.Crypto.Sha2
import NetconfGate.Decimal.Basic
import NetconfGate.Decimal.Shortest
import NetconfGate.Duration
import NetconfGate.Encoding.Base64
import NetconfGate.Encoding.Der
import NetconfGate.FileTree
import NetconfGate.HostKey.Armour
import NetconfGate.HostKey.Basic
import NetconfGate.HostKey.Container
import NetconfGate.HostKey.Fault
import NetconfGate.HostKey.OpenSsh
import NetconfGate.HostKey.Store
import NetconfGate.Main
import NetconfGate.Password.Error
import NetconfGate.Password.Phc
import NetconfGate.Password.Script
import NetconfGate.Password.Table
import NetconfGate.Password.Verify
import NetconfGate.Program.Basic
import NetconfGate.Program.Log
import NetconfGate.Program.Report
import NetconfGate.Program.Serve
import NetconfGate.Proofs.Bridge.Calls
import NetconfGate.Proofs.Bridge.Crossing
import NetconfGate.Proofs.Channel.Countdown
import NetconfGate.Proofs.Channel.Course
import NetconfGate.Proofs.Channel.Group
import NetconfGate.Proofs.Channel.Lifecycle
import NetconfGate.Proofs.Channel.Outcomes
import NetconfGate.Proofs.Channel.Service
import NetconfGate.Proofs.Channel.Shutdown
import NetconfGate.Proofs.Cipher.Policy
import NetconfGate.Proofs.CommandLine.Serving
import NetconfGate.Proofs.Password.Table
import NetconfGate.Proofs.Secure.Account
import NetconfGate.Proofs.Secure.Expiry
import NetconfGate.Proofs.Secure.Keeper
import NetconfGate.Proofs.Secure.Poll
import NetconfGate.Proofs.Secure.Timers
import NetconfGate.Proofs.Secure.Vigil
import NetconfGate.Proofs.Server.Alone
import NetconfGate.Proofs.Server.Closedown
import NetconfGate.Proofs.Server.Delivery
import NetconfGate.Proofs.Server.Dialling
import NetconfGate.Proofs.Server.Dialogue
import NetconfGate.Proofs.Server.Handover
import NetconfGate.Proofs.Server.Independence
import NetconfGate.Proofs.Server.Lifecycle
import NetconfGate.Proofs.Server.Outlook
import NetconfGate.Proofs.Server.Ownership
import NetconfGate.Proofs.Server.Parting
import NetconfGate.Proofs.Server.Traffic
import NetconfGate.Proofs.Settings.Layers
import NetconfGate.Relay.Basic
import NetconfGate.Relay.Pump
import NetconfGate.Secure.Deadline
import NetconfGate.Secure.Fault
import NetconfGate.Secure.Keeper
import NetconfGate.Secure.Offer
import NetconfGate.Secure.Session
import NetconfGate.Secure.Setup
import NetconfGate.Secure.Timers
import NetconfGate.Secure.Vigil
import NetconfGate.Secure.Watch
import NetconfGate.Server.Basic
import NetconfGate.Server.Closedown
import NetconfGate.Server.Concourse
import NetconfGate.Server.Dialogue
import NetconfGate.Server.Error
import NetconfGate.Server.Parting
import NetconfGate.Server.Run
import NetconfGate.Server.Traffic
import NetconfGate.Session.Id
import NetconfGate.Settings.File
import NetconfGate.Settings.Layers
import NetconfGate.SystemError
import NetconfGate.Text.Lines
import NetconfGate.Text.Printable
import NetconfGate.Text.Quoted
import NetconfGate.Text.Record
import NetconfGate.Yaml.Character
import NetconfGate.Yaml.Cursor
import NetconfGate.Yaml.Decoding
import NetconfGate.Yaml.Document
import NetconfGate.Yaml.Event
import NetconfGate.Yaml.Fault
import NetconfGate.Yaml.Token.Kind
import NetconfGate.Yaml.Token.Scalar
import NetconfGate.Yaml.Token.Stream
import NetconfGate.Yaml.Token.Tag
import NetconfGate.Yaml.Value
import NetconfGate.Proofs.Encoding.Base64
import NetconfGate.Proofs.Except
import NetconfGate.Proofs.Password.Usable
import NetconfGate.Proofs.Crypto.Argon2
import NetconfGate.Proofs.Password.Stored
import NetconfGate.Proofs.Bytes
import NetconfGate.Proofs.HostKey.OpenSsh
import NetconfGate.Proofs.Text.Lines
import NetconfGate.Proofs.HostKey.Armour
import NetconfGate.Proofs.FileTree.Walk
import NetconfGate.Proofs.FileTree.Writing
import NetconfGate.Proofs.HostKey.Identity
import NetconfGate.Proofs.Program.Messages
import NetconfGate.Proofs.Program.Startup
import NetconfGate.Channel.Reception
import NetconfGate.Proofs.Channel.Reception.Turns
import NetconfGate.Proofs.Channel.Reception.Numbers
import NetconfGate.Proofs.Channel.Reception.Loops
import NetconfGate.Proofs.Channel.Reception.Fates
import NetconfGate.Proofs.Channel.Reception.Conservation
import NetconfGate.Proofs.Bridge.Connecting
import NetconfGate.Proofs.Settings.Ranges
import NetconfGate.Proofs.Program.Panics
import NetconfGate.Proofs.HostKey.Exposure
import NetconfGate.Proofs.Configuration
import NetconfGate.Channel.BindCall
import NetconfGate.Channel.Entrance
import NetconfGate.Proofs.Channel.BindCall
import NetconfGate.Proofs.Channel.Entrance.Moves
import NetconfGate.Proofs.Channel.Entrance.Sockets
import NetconfGate.Proofs.Channel.Entrance.Sound
import NetconfGate.Proofs.Channel.Entrance.Binding
import NetconfGate.Proofs.Channel.Entrance.Frame
import NetconfGate.Proofs.Channel.Entrance.Unbinding
import NetconfGate.Proofs.Channel.Entrance.Reports
import NetconfGate.Channel.Sharing
import NetconfGate.Proofs.Session.Families
import NetconfGate.Proofs.Channel.Sharing
import NetconfGate.Proofs.Yaml.Decoding
import NetconfGate.Proofs.Yaml.Fields
import NetconfGate.Proofs.Settings.Strict
