import CounterTrace.Counter.Address
import CounterTrace.Counter.Store
import CounterTrace.Metric.Direction
import CounterTrace.Metric.Sets

/-!
# Counter descriptors

A descriptor says of a configured counter all that sampling it takes: the register address
it is read at, and the metric set and direction it is reported under.
-/

namespace CounterTrace

/-- A counter, located and annotated. -/
structure Descriptor where
  tile : Tile
  number : UInt8
  /-- The module, as the configuration names it. -/
  moduleName : String
  /-- The kind of module the address is computed for. -/
  kind : CounterModule
  /-- Where the counter is read. -/
  address : UInt64
  metricSet : Option String
  /-- The direction of the stream that the counter watches. -/
  direction : Option Direction
deriving DecidableEq, Repr

/-- What it takes to describe counters. -/
structure Resolver where
  /-- Where the chip has its tiles. -/
  shifts : ChipShifts
  /-- The metric set of each tile. -/
  metricSets : MetricSets

namespace Resolver

/-- The descriptor of a counter. -/
def describe (r : Resolver) (c : Counter) : Descriptor where
  tile := c.tile
  number := c.number
  moduleName := c.moduleName
  kind := .ofName c.moduleName
  address := r.shifts.counterAddress c.tile (.ofName c.moduleName) c.number
  metricSet := r.metricSets.lookup c.tile
  direction := (r.metricSets.lookup c.tile).bind (Direction.ofMetricSet? · c.payload)

/-- The descriptors of a device's counters, in the order of their indices. -/
def resolve (r : Resolver) (d : DeviceCounters) : List Descriptor :=
  d.toList.map r.describe

end Resolver

/-- The module names of a device's counters that are not known, a name for each such
counter. -/
def unknownModules (d : DeviceCounters) : List String :=
  (d.toList.map Counter.moduleName).filter fun name => (CounterModule.ofName? name).isNone

end CounterTrace
