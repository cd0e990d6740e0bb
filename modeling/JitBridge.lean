import JitBridge.Action
import JitBridge.Architecture.AArch64
import JitBridge.Architecture.Amd64
import JitBridge.Architecture.Basic
import JitBridge.Architecture.Name
import JitBridge.Backend.Basic
import JitBridge.Backend.Registry
import JitBridge.Code.Cache
import JitBridge.Code.Installed
import JitBridge.Code.Space
import JitBridge.CommandLine.Arguments
import JitBridge.CommandLine.Run
import JitBridge.Compilation.Request
import JitBridge.Compilation.Result
import JitBridge.Compiler.Basic
import JitBridge.Compiler.Selection
import JitBridge.Convention.Abi
import JitBridge.Convention.Assigner
import JitBridge.Convention.Calls
import JitBridge.Convention.Location
import JitBridge.Error
import JitBridge.Fault
import JitBridge.Kind
import JitBridge.Level
import JitBridge.Listener
import JitBridge.Listing.Basic
import JitBridge.Listing.X86
import JitBridge.Lock
import JitBridge.Main
import JitBridge.Options.Basic
import JitBridge.Options.Key
import JitBridge.Output
import JitBridge.Panic
import JitBridge.Proofs.Backend.Available
import JitBridge.Proofs.Backend.Builtin
import JitBridge.Proofs.Code.Addresses
import JitBridge.Proofs.Code.Execution
import JitBridge.Proofs.Code.History
import JitBridge.Proofs.Code.Ownership
import JitBridge.Proofs.Code.Tracking
import JitBridge.Proofs.CommandLine.Convention
import JitBridge.Proofs.Convention.Agreement
import JitBridge.Proofs.Convention.Area
import JitBridge.Proofs.Convention.Lanes
import JitBridge.Proofs.Convention.Passable
import JitBridge.Proofs.Convention.Slots
import JitBridge.Proofs.Convention.Views
import JitBridge.Proofs.Register.Attributes
import JitBridge.Proofs.Register.Counting
import JitBridge.Proofs.Register.Numbers
import JitBridge.Proofs.Register.Selection
import JitBridge.Proofs.Session.Conservation
import JitBridge.Proofs.Session.Dispatch
import JitBridge.Proofs.Session.Startup
import JitBridge.Proofs.Signature.Grammar
import JitBridge.Proofs.Signature.RoundTrip
import JitBridge.Proofs.Signature.Truncation
import JitBridge.Register.Attributes
import JitBridge.Register.Basic
import JitBridge.Register.Selection
import JitBridge.Register.Set
import JitBridge.RegisterConfig
import JitBridge.Services
import JitBridge.Session.Basic
import JitBridge.Session.Code
import JitBridge.Session.Compile
import JitBridge.Session.Events
import JitBridge.Session.Global
import JitBridge.Session.Levels
import JitBridge.Session.Startup
import JitBridge.Signature.Basic
import JitBridge.Signature.FieldType
import JitBridge.Signature.Positions
import JitBridge.Size
import JitBridge.Statistics
import JitBridge.Table
import JitBridge.Text.Case
import JitBridge.Text.Column
import JitBridge.Text.Hex
import JitBridge.Text.Invisible
import JitBridge.Text.Quoted
import JitBridge.Timer
import JitBridge.TypeName
import JitBridge.VmConfig
import JitBridge.Proofs.Compiler.Resolution
import JitBridge.Proofs.Session.Contacts
import JitBridge.Proofs.Session.Delivery
import JitBridge.Proofs.Session.Creation
import JitBridge.Proofs.Options.Writes
import JitBridge.Proofs.Register.CallerSaved
import JitBridge.Proofs.Code.Listing
import JitBridge.Proofs.Session.Timing
import JitBridge.Proofs.Convention.Recovery
import JitBridge.Proofs.Session.Levels
import JitBridge.Proofs.Backend.Registration
import JitBridge.Proofs.Signature.Positions
import JitBridge.Proofs.Options.Slots
import JitBridge.Proofs.Session.Global
