import CounterTrace.Counter.Columns
import CounterTrace.Script.TileGroup

/-!
# Probe blocks

A probe block pairs a control program with the counters that it samples.  A script has a
probe for it only if there is something to sample and somewhere to sample it.
-/

namespace CounterTrace

/-- A control program and the counters that it samples. -/
structure Block where
  record : Instrumentation
  counters : List Descriptor
deriving DecidableEq, Repr

namespace Block

/-- The block of a control program: it samples the counters in the program's columns. -/
def ofRecord (counters : List Descriptor) (record : Instrumentation) : Block :=
  ⟨record, record.columns.select counters⟩

/-- Whether there are both probe points and counters. -/
def isEmittable (b : Block) : Bool :=
  b.record.hasPoints && !b.counters.isEmpty

/-- The tiles of the counters, each with the places of its counters. -/
def groups (b : Block) : List TileGroup :=
  TileGroup.ofTiles (b.counters.map Descriptor.tile)

end Block

end CounterTrace
