import CounterTrace.Counter.Address
import CounterTrace.FileTree.Basic
import CounterTrace.Manifest.Row
import CounterTrace.Metric.Sets

/-!
# What can go wrong

A run that writes no script has one reason for it.  What is worth telling is told as a warning,
whether a script is written or not.
-/

namespace CounterTrace

/-- Why no script is written. -/
inductive Generator.Failure where
  /-- The chip's shifts are no shifts. -/
  | badShifts (fault : ShiftFault)
  /-- The manifest names no control program. -/
  | noRecords (manifest : String)
  /-- The device has no counters. -/
  | noCounters (device : UInt64)
  /-- The control programs of the manifest have no probe points. -/
  | noProbePoints (manifest : String)
  /-- The script cannot be staged next to its path. -/
  | notCreated (path : String) (fault : FileTree.Fault)
  /-- The script cannot be moved onto its path. -/
  | notWritten (path : String) (fault : FileTree.Fault)
deriving DecidableEq, Repr

namespace Generator.Failure

/-- Whether there was just nothing to trace. -/
def isInputAbsent : Failure → Bool
  | noRecords _ | noCounters _ | noProbePoints _ => true
  | badShifts _ | notCreated _ _ | notWritten _ _ => false

/-- The wording of a failure. -/
def message : Failure → String
  | badShifts fault => "Counter error: " ++ fault.message
  | noRecords manifest => "No control program records in manifest " ++ manifest
  | noCounters device => "No AIE counters configured for device " ++ toString device.toNat
  | noProbePoints manifest => "No probe points found in manifest " ++ manifest
  | notCreated path fault =>
    "Emit error: Unable to create CT file " ++ path ++ ": " ++ fault.message
  | notWritten path fault =>
    "Emit error: Unable to write CT file " ++ path ++ ": " ++ fault.message

end Generator.Failure

/-- What is worth telling, whether a script is written or not. -/
inductive Warning where
  /-- Something is wrong with a row of the manifest. -/
  | manifest (warning : Manifest.Warning)
  /-- A module is not known, and the core stands in for it. -/
  | unknownModule (name : String)
  /-- Two metric sets are named for one tile. -/
  | metricConflict (conflict : MetricConflict)
  /-- The script cannot be staged. -/
  | notCreated (path : String) (fault : FileTree.Fault)
  /-- The script cannot be moved onto its path. -/
  | notWritten (path : String) (fault : FileTree.Fault)
  /-- Tracing goes on without a script. -/
  | notGenerated (failure : Generator.Failure)
deriving DecidableEq, Repr

/-- The wording of a warning, without its particulars. -/
def Warning.message : Warning → String
  | .manifest (.invalidRow _ _) => "invalid manifest row: expected 3 fields"
  | .manifest (.invalidLineNumber _ _ _) => "invalid line number"
  | .manifest (.skippedRow _ _) => "skipping manifest row"
  | .unknownModule _ => "unrecognized counter module, using core base offset"
  | .metricConflict _ => "conflicting metric sets for tile, keeping first"
  | .notCreated _ _ => "unable to create CT file"
  | .notWritten _ _ => "unable to write CT file"
  | .notGenerated _ => "CT file not generated"

end CounterTrace
