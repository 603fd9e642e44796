import GuestBridge.AllocationStats
import GuestBridge.Bytes
import GuestBridge.CommandLine.Arguments
import GuestBridge.CommandLine.Command
import GuestBridge.CommandLine.Help
import GuestBridge.CommandLine.Run
import GuestBridge.CommandLine.Spec
import GuestBridge.Error
import GuestBridge.Event
import GuestBridge.Guest.Capability
import GuestBridge.Guest.Exports
import GuestBridge.Guest.Instance
import GuestBridge.Guest.Value
import GuestBridge.Hash.Fnv
import GuestBridge.Host
import GuestBridge.Key
import GuestBridge.Lease
import GuestBridge.Main
import GuestBridge.Memory.Basic
import GuestBridge.Memory.Fill
import GuestBridge.Memory.Page
import GuestBridge.Message.Layout
import GuestBridge.Message.Parse
import GuestBridge.Message.Render
import GuestBridge.Operation
import GuestBridge.PackedResult
import GuestBridge.Proofs.CommandLine.Attached
import GuestBridge.Proofs.CommandLine.Delivery
import GuestBridge.Proofs.CommandLine.Expressible
import GuestBridge.Proofs.CommandLine.FrontEnd
import GuestBridge.Proofs.CommandLine.KeyLine
import GuestBridge.Proofs.CommandLine.Output
import GuestBridge.Proofs.Guest.PackedWord
import GuestBridge.Proofs.Guest.Resolution
import GuestBridge.Proofs.Guest.Signature
import GuestBridge.Proofs.Hash.Forms
import GuestBridge.Proofs.Hash.Substitution
import GuestBridge.Proofs.Heap.Basic
import GuestBridge.Proofs.Heap.Bump
import GuestBridge.Proofs.Heap.Client
import GuestBridge.Proofs.Heap.Computing
import GuestBridge.Proofs.Heap.Scribe
import GuestBridge.Proofs.Heap.Stage
import GuestBridge.Proofs.Heap.Transport
import GuestBridge.Proofs.Host.Identity
import GuestBridge.Proofs.Host.Isolation
import GuestBridge.Proofs.Host.Lifecycle
import GuestBridge.Proofs.Host.Numbering
import GuestBridge.Proofs.Host.Opening
import GuestBridge.Proofs.Host.Places
import GuestBridge.Proofs.Key.Expansion
import GuestBridge.Proofs.Key.Shape
import GuestBridge.Proofs.Lease.Release
import GuestBridge.Proofs.Lease.Step
import GuestBridge.Proofs.Lease.Trace
import GuestBridge.Proofs.Memory.Bounds
import GuestBridge.Proofs.Memory.Replaced
import GuestBridge.Proofs.Memory.Slices
import GuestBridge.Proofs.Message.Agreement
import GuestBridge.Proofs.Message.Canonical
import GuestBridge.Proofs.Message.Grammar
import GuestBridge.Proofs.Message.Limits
import GuestBridge.Proofs.Message.RoundTrip
import GuestBridge.Proofs.Message.Unambiguous
import GuestBridge.Proofs.Message.Unique
import GuestBridge.Proofs.Operation.Body
import GuestBridge.Proofs.Operation.Calls
import GuestBridge.Proofs.Operation.Cleanup
import GuestBridge.Proofs.Operation.Course
import GuestBridge.Proofs.Operation.InputErrors
import GuestBridge.Proofs.Operation.Outcome
import GuestBridge.Proofs.Operation.Parts
import GuestBridge.Proofs.Operation.Secrecy
import GuestBridge.Proofs.Operation.Settling
import GuestBridge.Proofs.Operation.Twins
import GuestBridge.Proofs.Operation.Validation
import GuestBridge.Proofs.Operation.Verdict
import GuestBridge.Proofs.Session.Accounting
import GuestBridge.Proofs.Session.Closing
import GuestBridge.Proofs.Session.Inert
import GuestBridge.Proofs.Session.Residue
import GuestBridge.Proofs.StandIn.Answers
import GuestBridge.Proofs.Text.Encoding
import GuestBridge.Proofs.Text.Lossy
import GuestBridge.Proofs.Text.Numeral
import GuestBridge.Script.Basic
import GuestBridge.Script.Engine
import GuestBridge.Script.Link
import GuestBridge.Script.Program
import GuestBridge.Script.Reader
import GuestBridge.Script.Run
import GuestBridge.Script.Sample
import GuestBridge.Script.Scope
import GuestBridge.Session
import GuestBridge.Setup
import GuestBridge.StandIn
import GuestBridge.Text.Blank
import GuestBridge.Text.Decimal
import GuestBridge.Text.Invisible
import GuestBridge.Text.Json
import GuestBridge.Text.Quoted
import GuestBridge.Text.Scan
import GuestBridge.Text.Terminal
import GuestBridge.Text.Utf8
import GuestBridge.Text.Wrap
