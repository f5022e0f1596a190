import CounterTrace.Text.Search

/-!
# Stream directions

A metric set that measures throughput or bandwidth watches a stream, which leads into a tile
or out of it.  Most such sets name the direction; for three of them it is in the payload of
each counter.
-/

namespace CounterTrace

open Text (occurs)

/-- The direction of a stream. -/
inductive Direction where
  | input
  | output
deriving DecidableEq, Repr

/-- The name of a direction. -/
def Direction.name : Direction → String
  | .input => "input"
  | .output => "output"

/-- The metric sets whose direction stands in the payload of each counter. -/
def payloadMetricSets : List String :=
  ["ddr_bandwidth", "read_bandwidth", "write_bandwidth"]

/-- The bit of a payload that is set for the master of a stream, which sends. -/
def masterBit : UInt64 := 8

/-- Whether a payload marks the master of a stream. -/
def isMaster (payload : UInt64) : Bool :=
  (payload >>> masterBit) &&& 1 == 1

/-- Whether a metric set measures throughput or bandwidth. -/
def isThroughput (metricSet : String) : Bool :=
  occurs "throughput" metricSet || occurs "bandwidth" metricSet

/-- The direction that a counter of a metric set watches.  Where a name speaks of both
directions it is an input. -/
def Direction.ofMetricSet? (metricSet : String) (payload : UInt64) : Option Direction :=
  if !isThroughput metricSet then none
  else if metricSet ∈ payloadMetricSets then
    some (if isMaster payload then .output else .input)
  else if occurs "input" metricSet || occurs "s2mm" metricSet then some .input
  else if occurs "output" metricSet || occurs "mm2s" metricSet then some .output
  else none

/-- Only a set that measures throughput or bandwidth has a direction; the payload decides for
the sets named above, and input goes before output. -/
example : Direction.ofMetricSet? "input_stalls" 0 = none
    ∧ Direction.ofMetricSet? "read_bandwidth" 0x100 = some .output
    ∧ Direction.ofMetricSet? "mm2s_throughputs" 0 = some .output
    ∧ Direction.ofMetricSet? "output_input_throughput" 0x100 = some .input := by
  decide +kernel

end CounterTrace
