import SessionProbe.Bus.Address
import SessionProbe.Bus.Connection
import SessionProbe.Bus.Conversation
import SessionProbe.Bus.Error
import SessionProbe.Bus.Recording
import SessionProbe.Bus.RemoteObject
import SessionProbe.Bus.Resolution
import SessionProbe.Bus.Resolver
import SessionProbe.Bus.Session
import SessionProbe.Decimal.Binary64
import SessionProbe.Decimal.Layout
import SessionProbe.Decimal.Shortest
import SessionProbe.Failure
import SessionProbe.Journal.Entry
import SessionProbe.Journal.Directive
import SessionProbe.Journal.Filter
import SessionProbe.Json.Fault
import SessionProbe.Json.Number
import SessionProbe.Json.Scan
import SessionProbe.Json.Skip
import SessionProbe.Main
import SessionProbe.Name.Dotted
import SessionProbe.Name.Fault
import SessionProbe.Name.Kind
import SessionProbe.Name.ObjectPath
import SessionProbe.Probe
import SessionProbe.Program
import SessionProbe.Proofs.Bus.Answer
import SessionProbe.Proofs.Bus.Discovery
import SessionProbe.Proofs.Bus.Exchange
import SessionProbe.Proofs.Bus.Invocation
import SessionProbe.Proofs.Bus.Naming
import SessionProbe.Proofs.Bus.RemoteObject
import SessionProbe.Proofs.Bus.Resolution
import SessionProbe.Proofs.Bus.Search
import SessionProbe.Proofs.Bus.Session
import SessionProbe.Proofs.Bus.Step
import SessionProbe.Proofs.Bus.Task
import SessionProbe.Proofs.Decimal.Interval
import SessionProbe.Proofs.Decimal.SingleDigit
import SessionProbe.Proofs.Journal.Directive
import SessionProbe.Proofs.Journal.Filter
import SessionProbe.Proofs.Json.Grammar
import SessionProbe.Proofs.Json.Numeral
import SessionProbe.Proofs.Json.Quotation
import SessionProbe.Proofs.Json.Scan
import SessionProbe.Proofs.Json.Skip
import SessionProbe.Proofs.Name.Acceptance
import SessionProbe.Proofs.Name.Characters
import SessionProbe.Proofs.Name.Dotted
import SessionProbe.Proofs.Name.Grammar
import SessionProbe.Proofs.Name.ObjectPath
import SessionProbe.Proofs.Probe.Conversation
import SessionProbe.Proofs.Probe.Naming
import SessionProbe.Proofs.Probe.Printing
import SessionProbe.Proofs.Probe.Requests
import SessionProbe.Proofs.Program.Configuration
import SessionProbe.Proofs.Program.Ending
import SessionProbe.Proofs.Program.Report
import SessionProbe.Proofs.Rehearsal
import SessionProbe.Proofs.Reply.Depth
import SessionProbe.Proofs.Reply.EntryOrder
import SessionProbe.Proofs.Reply.Extension
import SessionProbe.Proofs.Reply.LeadingStruct
import SessionProbe.Proofs.Reply.RoundTrip
import SessionProbe.Proofs.Reply.Typing
import SessionProbe.Proofs.Settings.File
import SessionProbe.Proofs.Settings.Options
import SessionProbe.Proofs.Settings.RoundTrip
import SessionProbe.Proofs.Sink
import SessionProbe.Proofs.Text.Cut
import SessionProbe.Proofs.Text.Decoding
import SessionProbe.Proofs.Text.Digits
import SessionProbe.Proofs.Text.Quoted
import SessionProbe.Proofs.Text.Separated
import SessionProbe.Proofs.Text.Utf8
import SessionProbe.Proofs.Trail
import SessionProbe.Proofs.Wire.Depth
import SessionProbe.Proofs.Wire.Double
import SessionProbe.Proofs.Wire.Extension
import SessionProbe.Proofs.Wire.Form
import SessionProbe.Proofs.Wire.Frame
import SessionProbe.Proofs.Wire.Legibility
import SessionProbe.Proofs.Wire.Marshal
import SessionProbe.Proofs.Wire.Normal
import SessionProbe.Proofs.Wire.Numbers
import SessionProbe.Proofs.Wire.Reader
import SessionProbe.Proofs.Wire.RoundTrip
import SessionProbe.Proofs.Wire.Shape
import SessionProbe.Proofs.Wire.Signature
import SessionProbe.Proofs.Wire.Slice
import SessionProbe.Proofs.Wire.Sorting
import SessionProbe.Proofs.Wire.Spelling
import SessionProbe.Proofs.Wire.Typing
import SessionProbe.Proofs.Wire.Unlimited
import SessionProbe.Proofs.Wire.Variation
import SessionProbe.Rehearsal
import SessionProbe.Reply
import SessionProbe.Settings.File
import SessionProbe.Settings.Options
import SessionProbe.Sink
import SessionProbe.Text.Alphanumeric
import SessionProbe.Text.Blank
import SessionProbe.Text.Cut
import SessionProbe.Text.GraphemeExtend
import SessionProbe.Text.Hexadecimal
import SessionProbe.Text.Numeral
import SessionProbe.Text.Property
import SessionProbe.Text.Quoted
import SessionProbe.Text.Unprintable
import SessionProbe.Text.Utf8
import SessionProbe.Wire.Dictionary
import SessionProbe.Wire.Fault
import SessionProbe.Wire.Marshal
import SessionProbe.Wire.Reading
import SessionProbe.Wire.Rendering
import SessionProbe.Wire.Signature
import SessionProbe.Wire.Slice
import SessionProbe.Wire.Ty
import SessionProbe.Wire.Value
import SessionProbe.Proofs.Journal.Directive
import SessionProbe.Proofs.Journal.Filter
