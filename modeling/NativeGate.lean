import NativeGate.Program.Session
import NativeGate.Proofs.NonAscii
import NativeGate.Proofs.FirstHigh
import NativeGate.Proofs.Symbol.Table
import NativeGate.Proofs.Value
import NativeGate.Proofs.Host.Plan
import NativeGate.Proofs.Host.Run
import NativeGate.Proofs.Host.Symbols
import NativeGate.Proofs.Host.Objects
import NativeGate.Proofs.Engine
import NativeGate.Proofs.Gate.Basic
import NativeGate.Proofs.Host.NameStrings
import NativeGate.Proofs.Gate.Symbols
import NativeGate.Proofs.Host.Inspect
import NativeGate.Proofs.Format.Render
import NativeGate.Proofs.Gate.Reports
import NativeGate.Proofs.Host.Classes
import NativeGate.Proofs.Host.Lineage
import NativeGate.Proofs.Gate.Callback
import NativeGate.Proofs.Gate.Protected
import NativeGate.Proofs.Gate.Clause
import NativeGate.Proofs.Gate.Nesting
import NativeGate.Proofs.Gate.Errinfo
import NativeGate.Proofs.Gate.Rescue
import NativeGate.Proofs.Gate.Protection
import NativeGate.Proofs.Gate.Conduct
import NativeGate.Proofs.Program.Conduct
import NativeGate.Proofs.Program.Run
import NativeGate.Proofs.Gate.Invocation
import NativeGate.Proofs.Gate.Coderange
import NativeGate.Proofs.Host.Records
import NativeGate.Proofs.Gate.Interning
import NativeGate.Proofs.Gate.Identifiers
import NativeGate.Proofs.Format.Closure
import NativeGate.Proofs.Gate.Closure
import NativeGate.Proofs.Format.Scan
import NativeGate.Proofs.Format.Composition
import NativeGate.Proofs.Host.Additions
import NativeGate.Proofs.Gate.Warnings
import NativeGate.Proofs.Gate.Arrays
import NativeGate.Proofs.Host.Layers
import NativeGate.Proofs.Host.Texts
import NativeGate.Proofs.Host.Answers
import NativeGate.Proofs.Gate.Inspection
import NativeGate.Proofs.Context
import NativeGate.Proofs.Gate.Clients
import NativeGate.Proofs.Agreement
import NativeGate.Proofs.Gate.Extent
import NativeGate.Proofs.Program.Extent
import NativeGate.Proofs.Format.Integers
import NativeGate.Proofs.Format.Spelling
import NativeGate.Proofs.Format.Spelled
import NativeGate.Proofs.Format.Figures
import NativeGate.Proofs.Format.Fields
import NativeGate.Proofs.Format.Rendered
import NativeGate.Proofs.Format.Demand
import NativeGate.Proofs.Format.Reads
import NativeGate.Proofs.Text.Numeral
import NativeGate.Proofs.Coderange
import NativeGate.Proofs.Tags
import NativeGate.Proofs.Memory
import NativeGate.Proofs.Gate.Allocation
import NativeGate.Proofs.Host.Constants
import NativeGate.Proofs.Host.Definitions
import NativeGate.Proofs.Gate.Members
import NativeGate.Proofs.Gate.Definitions
import NativeGate.Proofs.Gate.Decoding
import NativeGate.Proofs.Host.Cycles
import NativeGate.Proofs.Gate.Instances
import NativeGate.Proofs.Format.Widths
import NativeGate.Proofs.Format.Padding
import NativeGate.Proofs.AbiVersion
import NativeGate.Proofs.Gate.Quotation
import NativeGate.Proofs.Gate.Predicates
import NativeGate.Proofs.Gate.Setters
import NativeGate.Proofs.Gate.Literals
import NativeGate.Proofs.Cursor
