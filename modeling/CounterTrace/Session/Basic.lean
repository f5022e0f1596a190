import CounterTrace.FileTree.Edit
import CounterTrace.Generator.Basic
import CounterTrace.Metric.Collections

/-!
# Sessions

A session is what a generator works in: a file tree with a working directory, counters being
configured, metric sets being named, options being chosen.
-/

namespace CounterTrace

/-- The state of a session. -/
structure Session where
  files : FileTree
  counters : CounterStore
  metricSets : MetricSets
  /-- The collections that metric sets can be taken from. -/
  collections : MetricCollections
  /-- The options, with the working directory. -/
  config : Generator.Config
  /-- The shift of the column on the chip. -/
  columnShift : UInt8
  /-- The shift of the row on the chip. -/
  rowShift : UInt8

namespace Session

/-- A session with nothing in it but its working directory. -/
def start (workDir : String) : Session where
  files := FileTree.empty.makeDirectory workDir
  counters := .empty
  metricSets := .empty
  collections := .empty
  config := { workDir }
  columnShift := ChipShifts.aie2ps.column
  rowShift := ChipShifts.aie2ps.row

/-- The path of a file, which is seen from the working directory. -/
def path (s : Session) (file : String) : String :=
  Path.join s.config.workDir file

/-- The paths below the working directory. -/
def listing (s : Session) : List String :=
  match s.files.locate s.config.workDir with
  | .error _ => []
  | .ok place => s.files.listing place

/-- The generator of a session whose shifts are good. -/
def generatorWith (s : Session) (device : UInt64) (shifts : ChipShifts) : Generator where
  config := s.config
  resolver := ⟨shifts, s.metricSets⟩
  device := device
  counters := s.counters.onDevice device

/-- The generator for a device, if the chip's shifts are good. -/
def generator (s : Session) (device : UInt64) : Except ShiftFault Generator :=
  (ChipShifts.ofAmounts s.columnShift s.rowShift).map (s.generatorWith device)

/-- The script of a session whose shifts are given, for some records. -/
def scriptFor (s : Session) (device : UInt64) (shifts : ChipShifts) (records : List Record) :
    Script :=
  let counters := (s.counters.counters device).map (Resolver.describe ⟨shifts, s.metricSets⟩)
  ⟨s.config.script, counters, (records.map Record.instrumentation).map (Block.ofRecord counters)⟩

/-- Writes the script for a device.  Bad shifts are found before anything is read. -/
def generate (s : Session) (device : UInt64) : Generator.Run :=
  match s.generator device with
  | .error fault => ⟨.error (.badShifts fault), s.files, []⟩
  | .ok g => g.generate s.files

/-- Writes the script for a device, or goes on without.  Bad shifts are a failure even so. -/
def generateOrSkip (s : Session) (device : UInt64) : Generator.Run :=
  match s.generator device with
  | .error fault => ⟨.error (.badShifts fault), s.files, []⟩
  | .ok g => g.generateOrSkip s.files

end Session

end CounterTrace
