import ShadowTaint.Analysis.Finding
import ShadowTaint.Analysis.Observer
import ShadowTaint.Analysis.Step
import ShadowTaint.Arch.Cond
import ShadowTaint.Arch.Context
import ShadowTaint.Arch.Flags
import ShadowTaint.Arch.Opcode
import ShadowTaint.Arch.Reg
import ShadowTaint.Arch.RegList
import ShadowTaint.Call.Argument
import ShadowTaint.Call.Control
import ShadowTaint.Command.Invocation
import ShadowTaint.Command.Run
import ShadowTaint.Command.Topics
import ShadowTaint.Config.Analysis
import ShadowTaint.Config.Environment
import ShadowTaint.Config.Load
import ShadowTaint.Config.Log
import ShadowTaint.Config.Path
import ShadowTaint.Config.Section
import ShadowTaint.Config.Setting
import ShadowTaint.Config.Toml.Document
import ShadowTaint.Config.Toml.Lexeme
import ShadowTaint.Config.Toml.Scalar
import ShadowTaint.Config.Toml.Syntax
import ShadowTaint.Encoding.Config
import ShadowTaint.Encoding.Event
import ShadowTaint.Encoding.Instruction
import ShadowTaint.Encoding.Report
import ShadowTaint.Failure
import ShadowTaint.Fault
import ShadowTaint.Flow.Rules
import ShadowTaint.Flow.Shadow
import ShadowTaint.Instr.Block
import ShadowTaint.Instr.MemRef
import ShadowTaint.Instr.Operand
import ShadowTaint.Instr.Operation
import ShadowTaint.Json.Basic
import ShadowTaint.Json.Numeral
import ShadowTaint.Json.Printer
import ShadowTaint.Json.Reader
import ShadowTaint.Json.Record
import ShadowTaint.Json.Token
import ShadowTaint.Log.Filter
import ShadowTaint.Main
import ShadowTaint.Number.Decimal
import ShadowTaint.Number.Double
import ShadowTaint.Number.Whole
import ShadowTaint.Number.Word
import ShadowTaint.Pattern.Atom
import ShadowTaint.Pattern.Depth
import ShadowTaint.Pattern.Grammar
import ShadowTaint.Pattern.Options
import ShadowTaint.Pattern.Set
import ShadowTaint.Proofs.Access.Contract
import ShadowTaint.Proofs.Access.Footprint
import ShadowTaint.Proofs.Access.Violation
import ShadowTaint.Proofs.Arch.RegisterSets
import ShadowTaint.Proofs.Block.RoundTrip
import ShadowTaint.Proofs.Block.Slots
import ShadowTaint.Proofs.Calls.Pending
import ShadowTaint.Proofs.Calls.Requests
import ShadowTaint.Proofs.Calls.Return
import ShadowTaint.Proofs.Calls.Sources
import ShadowTaint.Proofs.Command.Faults
import ShadowTaint.Proofs.Command.Reports
import ShadowTaint.Proofs.Command.Stages
import ShadowTaint.Proofs.Config.Fields
import ShadowTaint.Proofs.Config.Files
import ShadowTaint.Proofs.Config.Numbers
import ShadowTaint.Proofs.Config.Overlay
import ShadowTaint.Proofs.Config.Priority
import ShadowTaint.Proofs.Config.Sources
import ShadowTaint.Proofs.Config.Statements
import ShadowTaint.Proofs.Config.Variables
import ShadowTaint.Proofs.Encoding.Events
import ShadowTaint.Proofs.Encoding.Fields
import ShadowTaint.Proofs.Encoding.Instructions
import ShadowTaint.Proofs.Flags.Decision
import ShadowTaint.Proofs.Flags.History
import ShadowTaint.Proofs.Flow.Assignment
import ShadowTaint.Proofs.Flow.Execution
import ShadowTaint.Proofs.Flow.Step
import ShadowTaint.Proofs.Flow.Updates
import ShadowTaint.Proofs.Json.Layout
import ShadowTaint.Proofs.Json.Scalars
import ShadowTaint.Proofs.Json.Texts
import ShadowTaint.Proofs.Labels.Findings
import ShadowTaint.Proofs.Labels.Relabelling
import ShadowTaint.Proofs.Labels.Relation
import ShadowTaint.Proofs.Labels.Replay
import ShadowTaint.Proofs.Labels.Retention
import ShadowTaint.Proofs.Labels.Rules
import ShadowTaint.Proofs.Labels.Step
import ShadowTaint.Proofs.Labels.Superposition
import ShadowTaint.Proofs.Order.Commute
import ShadowTaint.Proofs.Order.Deeds
import ShadowTaint.Proofs.Order.Effects
import ShadowTaint.Proofs.Order.Stores
import ShadowTaint.Proofs.Shadow.Allocation
import ShadowTaint.Proofs.Shadow.History
import ShadowTaint.Proofs.Shadow.Journal
import ShadowTaint.Proofs.Shadow.LabelMap
import ShadowTaint.Proofs.Shadow.LazyPages
import ShadowTaint.Proofs.Shadow.Offsets
import ShadowTaint.Proofs.Shadow.Pages
import ShadowTaint.Proofs.Shadow.Refinement
import ShadowTaint.Proofs.Shadow.Words
import ShadowTaint.Proofs.Sinks.Accesses
import ShadowTaint.Proofs.Sinks.Jumps
import ShadowTaint.Proofs.Sinks.Notes
import ShadowTaint.Proofs.Text.Framing
import ShadowTaint.Proofs.Threads.Incarnations
import ShadowTaint.Proofs.Threads.Names
import ShadowTaint.Proofs.Trace.Balances
import ShadowTaint.Proofs.Trace.Counts
import ShadowTaint.Proofs.Trace.Lines
import ShadowTaint.Proofs.Trace.ProgramCounter
import ShadowTaint.Proofs.Trace.Reading
import ShadowTaint.Proofs.Trace.Tables
import ShadowTaint.Proofs.Trace.Totals
import ShadowTaint.Proofs.Trace.View
import ShadowTaint.Proofs.Values.Interchange
import ShadowTaint.Proofs.Values.Visible
import ShadowTaint.Reached
import ShadowTaint.Shadow.LabelWord
import ShadowTaint.Shadow.Lanes
import ShadowTaint.Shadow.Memory
import ShadowTaint.Shadow.Page
import ShadowTaint.Shadow.RegisterFile
import ShadowTaint.Stop
import ShadowTaint.Text.Blank
import ShadowTaint.Text.Letter
import ShadowTaint.Text.Utf8
import ShadowTaint.Thread.Basic
import ShadowTaint.Thread.Table
import ShadowTaint.Thread.Tally
import ShadowTaint.Trace.Event
import ShadowTaint.Trace.Replay
import ShadowTaint.Trace.Text
