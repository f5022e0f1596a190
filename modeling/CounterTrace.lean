import CounterTrace.Counter.Address
import CounterTrace.Counter.Columns
import CounterTrace.Counter.Descriptor
import CounterTrace.Counter.Module
import CounterTrace.Counter.Store
import CounterTrace.FileTree.Basic
import CounterTrace.FileTree.Edit
import CounterTrace.FileTree.Install
import CounterTrace.Generator.Basic
import CounterTrace.Generator.Config
import CounterTrace.Generator.Failure
import CounterTrace.Manifest.Basic
import CounterTrace.Manifest.Field
import CounterTrace.Manifest.File
import CounterTrace.Manifest.LineList
import CounterTrace.Manifest.Row
import CounterTrace.Metric.Collections
import CounterTrace.Metric.Direction
import CounterTrace.Metric.Sets
import CounterTrace.Path
import CounterTrace.Program.Name
import CounterTrace.Program.Record
import CounterTrace.Proofs.AddressRange
import CounterTrace.Proofs.AddressText
import CounterTrace.Proofs.Atomicity
import CounterTrace.Proofs.CarriageReturns
import CounterTrace.Proofs.Content
import CounterTrace.Proofs.Cutting
import CounterTrace.Proofs.Devices
import CounterTrace.Proofs.Encoding
import CounterTrace.Proofs.Entries
import CounterTrace.Proofs.Fields
import CounterTrace.Proofs.FirstNames
import CounterTrace.Proofs.Flattening
import CounterTrace.Proofs.Generation
import CounterTrace.Proofs.Grouping
import CounterTrace.Proofs.IdleRows
import CounterTrace.Proofs.Install
import CounterTrace.Proofs.LeftmostName
import CounterTrace.Proofs.LineEnds
import CounterTrace.Proofs.LineNumbers
import CounterTrace.Proofs.Lines
import CounterTrace.Proofs.Listing
import CounterTrace.Proofs.Literals
import CounterTrace.Proofs.OneLine
import CounterTrace.Proofs.Overwriting
import CounterTrace.Proofs.Ownership
import CounterTrace.Proofs.Payload
import CounterTrace.Proofs.Placing
import CounterTrace.Proofs.ProgramName
import CounterTrace.Proofs.Registers
import CounterTrace.Proofs.Repetition
import CounterTrace.Proofs.Report
import CounterTrace.Proofs.Retention
import CounterTrace.Proofs.RowCounts
import CounterTrace.Proofs.RowOrder
import CounterTrace.Proofs.RowWarnings
import CounterTrace.Proofs.Staging
import CounterTrace.Script.Block
import CounterTrace.Script.Config
import CounterTrace.Script.Text
import CounterTrace.Script.TileGroup
import CounterTrace.Session.Basic
import CounterTrace.Session.Run
import CounterTrace.Session.Step
import CounterTrace.StableSort
import CounterTrace.Table
import CounterTrace.Text.Blank
import CounterTrace.Text.DecimalDigit
import CounterTrace.Text.Hexadecimal
import CounterTrace.Text.Line
import CounterTrace.Text.Literal
import CounterTrace.Text.Numeral
import CounterTrace.Text.Search
import CounterTrace.Tile
