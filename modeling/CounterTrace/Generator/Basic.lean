import CounterTrace.FileTree.Install
import CounterTrace.Generator.Config
import CounterTrace.Generator.Failure
import CounterTrace.Script.Text

/-!
# Generating a script

A generator reads the manifest, describes the counters of its device, gives each control
program the counters in its columns, and puts the script in its place.  The first thing that
is missing decides the outcome: control programs, counters, probe points, the directory of
the script, and last a path that can be that of a file.  Without a script in its place the
files are as they were.
-/

namespace CounterTrace

/-- What it takes to write scripts for a device. -/
structure Generator where
  config : Generator.Config
  /-- How counters are described. -/
  resolver : Resolver
  device : UInt64
  /-- The counters of the device. -/
  counters : DeviceCounters

namespace Generator

/-- What a run has written. -/
structure Report where
  /-- Where the script is. -/
  outputPath : String
  /-- How many control programs the manifest has. -/
  records : Nat
  /-- How many counters the script lists. -/
  counters : Nat
  /-- How many probes the script has. -/
  probeBlocks : Nat
deriving DecidableEq, Repr

/-- What comes of a run. -/
structure Run where
  /-- Whether it succeeded. -/
  outcome : Except Failure Report
  /-- The files after it. -/
  files : FileTree
  /-- What it told on its way. -/
  warnings : List Warning

/-- The script for some control programs. -/
def script (g : Generator) (records : List Instrumentation) : Script :=
  let counters := g.resolver.resolve g.counters
  ⟨g.config.script, counters, records.map (Block.ofRecord counters)⟩

/-- The script for a manifest.  There is none without control programs, counters and probe
points. -/
def plan (g : Generator) (manifest : Manifest) : Except Failure Script :=
  if manifest.isEmpty then .error (.noRecords g.config.manifestPath)
  else if g.counters.toList.isEmpty then .error (.noCounters g.device)
  else if !manifest.records.any Record.hasPoints then
    .error (.noProbePoints g.config.manifestPath)
  else .ok (g.script (manifest.records.map Record.instrumentation))

/-- What a script in its place amounts to. -/
def report (g : Generator) (script : Script) : Report where
  outputPath := g.config.outputPath
  records := script.blocks.length
  counters := script.counters.length
  probeBlocks := script.blocks.countP Block.isEmittable

/-- What is told before a script is put in its place: the faults of the manifest and then,
if it has control programs, the modules that are not known. -/
def inputWarnings (g : Generator) (files : FileTree) : List Warning :=
  (Manifest.fileWarnings files g.config.manifestPath).map .manifest
  ++ if (Manifest.load files g.config.manifestPath).isEmpty then []
    else (unknownModules g.counters).map .unknownModule

/-- Reads the manifest and puts the script in its place. -/
def generate (g : Generator) (files : FileTree) : Run :=
  let told := g.inputWarnings files
  match g.plan (Manifest.load files g.config.manifestPath) with
  | .error failure => ⟨.error failure, files, told⟩
  | .ok script =>
    match files.install g.config.outputPath script.text.toUTF8 with
    | .error (.stage fault) =>
      ⟨.error (.notCreated g.config.outputPath fault), files,
        told ++ [.notCreated g.config.outputPath fault]⟩
    | .error (.move fault) =>
      ⟨.error (.notWritten g.config.outputPath fault), files,
        told ++ [.notWritten g.config.outputPath fault]⟩
    | .ok files' => ⟨.ok (g.report script), files', told⟩

/-- What a session that goes on without a script tells about a failure: nothing, if there was
nothing to trace. -/
def skipWarnings : Except Failure Report → List Warning
  | .ok _ => []
  | .error failure => if failure.isInputAbsent then [] else [.notGenerated failure]

/-- Runs the generator for a session that goes on without a script. -/
def generateOrSkip (g : Generator) (files : FileTree) : Run :=
  let run := g.generate files
  { run with warnings := run.warnings ++ skipWarnings run.outcome }

/-- A run that fails changes no file. -/
theorem files_generate_of_error {g : Generator} {files : FileTree} {failure : Failure}
    (h : (g.generate files).outcome = .error failure) : (g.generate files).files = files := by
  unfold generate at h ⊢
  dsimp only at h ⊢
  split at h
  · rfl
  · split at h
    · rfl
    · rfl
    · simp at h

end Generator

end CounterTrace
