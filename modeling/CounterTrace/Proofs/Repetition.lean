import CounterTrace.Proofs.IdleRows
import CounterTrace.Proofs.Retention

/-!
# Writing a script again

A script follows from the manifest, the counters of the device, the metric sets and the options.
Where a session has gone on after a script was written, but has left these alone, the script is
written again, byte by byte, and the report is the same.  The rest of the session does not matter:
other files, the counters of other devices, collections, and scripts that were written in between.

A session never removes a directory, so the manifest is still found, and the script is still staged.
-/

namespace CounterTrace.Session

open FileTree (KeepsDirectories placeOf)
open Generator (Report)

/-- The locations at which a step may change or remove a file. -/
def Step.touched (config : Generator.Config) : Step → List Location
  | .putFile file _ | .removeFile file => [placeOf (Path.join config.workDir file)]
  | .generate _ | .generateOrSkip _ => [placeOf config.outputPath]
  | _ => []

variable {s t u : Session} {device : UInt64}

/-- A run touches the file at its path. -/
theorem retains_generate (s : Session) (device : UInt64) :
    s.files.Retains (s.generate device).files [placeOf s.config.outputPath] := by
  cases outcome : (s.generate device).outcome with
  | error failure =>
    rw [files_generate_of_failure outcome]
    exact .refl _ _
  | ok report =>
    obtain ⟨shifts, -, run⟩ := generate_ok outcome
    rw [run] at outcome ⊢
    obtain ⟨script, -, installed, -⟩ := Generator.generate_ok outcome
    exact FileTree.retains_install installed

/-- Reading a manifest changes nothing, whether it can be read or not. -/
theorem session_readManifest (s : Session) (file : String) :
    (s.step (.readManifest file)).session = s := by
  unfold step
  dsimp only
  cases Manifest.ofFile s.files (s.path file) <;> rfl

/-- **What a step leaves alone of the files**: all but the file that it is about. -/
theorem retains_step (s : Session) (x : Step) :
    s.files.Retains (s.step x).session.files (x.touched s.config) := by
  cases x with
  | putFile file content => exact FileTree.retains_putFile _ _ _
  | makeDirectory directory => exact FileTree.retains_makeDirectory _ _
  | removeFile file => exact FileTree.retains_removeFile _ _
  | generate device => exact retains_generate s device
  | generateOrSkip device =>
    rw [session_generateOrSkip]
    exact retains_generate s device
  | readManifest file =>
    rw [session_readManifest]
    exact .refl _ _
  | _ => exact .refl _ _

/-- No directory is gone after some steps. -/
theorem keepsDirectories_run (s : Session) (steps : List Step) :
    s.files.KeepsDirectories (s.run steps).2.1.files := by
  induction steps generalizing s with
  | nil => exact fun _ here => here
  | cons x xs ih =>
    intro place here
    exact ih (s.step x).session place ((retains_step s x).keepsDirectories place here)

/-- All that the script for a device depends on is in the second session as it is in the first, and
there is no directory where the script goes. -/
structure Keeps (device : UInt64) (s t : Session) : Prop where
  /-- The manifest is the same file. -/
  manifest : ∀ content, s.files.node? (placeOf s.config.manifestPath) = some (.file content) →
    t.files.node? (placeOf s.config.manifestPath) = some (.file content)
  output : t.files.node? (placeOf s.config.outputPath) ≠ some .directory
  counters : t.counters.counters device = s.counters.counters device
  metricSets : ∀ tile, t.metricSets.lookup tile = s.metricSets.lookup tile
  config : t.config = s.config
  columnShift : t.columnShift = s.columnShift
  rowShift : t.rowShift = s.rowShift

theorem Keeps.refl (free : s.files.node? (placeOf s.config.outputPath) ≠ some .directory) :
    s.Keeps device s where
  manifest _ isFile := isFile
  output := free
  counters := rfl
  metricSets _ := rfl
  config := rfl
  columnShift := rfl
  rowShift := rfl

theorem Keeps.trans (first : s.Keeps device t) (second : t.Keeps device u) : s.Keeps device u where
  manifest content isFile := by
    have between := first.manifest content isFile
    rw [← first.config] at between ⊢
    exact second.manifest content between
  output := first.config ▸ second.output
  counters := second.counters.trans first.counters
  metricSets tile := (second.metricSets tile).trans (first.metricSets tile)
  config := second.config.trans first.config
  columnShift := second.columnShift.trans first.columnShift
  rowShift := second.rowShift.trans first.rowShift

/-- Whether a file is neither the manifest nor the script. -/
def isOther (config : Generator.Config) (file : String) : Bool :=
  decide (placeOf (Path.join config.workDir file) ≠ placeOf config.manifestPath) &&
    decide (placeOf (Path.join config.workDir file) ≠ placeOf config.outputPath)

theorem isOther_eq_true_iff {config : Generator.Config} {file : String} :
    isOther config file = true ↔
      placeOf (Path.join config.workDir file) ≠ placeOf config.manifestPath ∧
        placeOf (Path.join config.workDir file) ≠ placeOf config.outputPath := by
  simp [isOther]

/-- Whether a step leaves alone all that the script for a device depends on: it is about another
file or another device, or it changes nothing of this kind. -/
def Step.spares (config : Generator.Config) (device : UInt64) : Step → Bool
  | .putFile file _ | .removeFile file => isOther config file
  | .addCounter other _ => other ≠ device
  | .nameMetricSet _ | .useCollections | .setShifts _ _ | .configure _ => false
  | _ => true

/-- A step that spares what a script depends on changes files, collections and the counters of other
devices at most. -/
theorem session_step_of_spares {x : Step} (spared : x.spares s.config device = true) :
    ∃ files counters collections, (s.step x).session = { s with files, counters, collections } ∧
      counters.counters device = s.counters.counters device := by
  cases x with
  | addCounter other counter =>
    refine ⟨_, _, _, rfl, ?_⟩
    have apart : other ≠ device := by simpa [Step.spares] using spared
    rw [CounterStore.counters_push, if_neg apart.symm]
  | nameMetricSet metric | useCollections | setShifts column row | configure change =>
    simp [Step.spares] at spared
  | readManifest file => exact ⟨_, _, _, session_readManifest s file, rfl⟩
  | _ => exact ⟨_, _, _, rfl, rfl⟩

/-- It does not touch the manifest. -/
theorem manifest_notMem_touched {x : Step} {config : Generator.Config}
    (spared : x.spares config device = true)
    (apart : placeOf config.manifestPath ≠ placeOf config.outputPath) :
    placeOf config.manifestPath ∉ x.touched config := by
  cases x with
  | putFile file content | removeFile file =>
    rw [Step.touched, List.mem_singleton]
    exact (isOther_eq_true_iff.1 spared).1.symm
  | generate device | generateOrSkip device =>
    rw [Step.touched, List.mem_singleton]
    exact apart
  | _ => exact List.not_mem_nil

/-- A run that succeeds leaves a file where the script goes. -/
theorem isFile_of_generate {report : Report} (h : (s.generate device).outcome = .ok report) :
    ∃ script, (s.generate device).files.node? (placeOf s.config.outputPath)
      = some (.file script) := by
  obtain ⟨shifts, records, -, -, -, -, written, -⟩ := hasWritten_of_generate h
  have read := FileTree.readText_eq_ok_iff.1 written
  obtain ⟨place, located, isFile⟩ := FileTree.read_eq_ok_iff.1 read
  exact ⟨_, FileTree.eq_placeOf_of_locate located ▸ isFile⟩

/-- So does one that fails, if there was a file before. -/
theorem isFile_generate {before : ByteArray}
    (written : s.files.node? (placeOf s.config.outputPath) = some (.file before)) :
    ∃ script, (s.generate device).files.node? (placeOf s.config.outputPath)
      = some (.file script) := by
  cases outcome : (s.generate device).outcome with
  | error failure =>
    rw [files_generate_of_failure outcome]
    exact ⟨before, written⟩
  | ok report => exact isFile_of_generate outcome

/-- A step that spares what a script depends on leaves a file where the script goes. -/
theorem isFile_step {x : Step} {before : ByteArray} (spared : x.spares s.config device = true)
    (written : s.files.node? (placeOf s.config.outputPath) = some (.file before)) :
    ∃ script, (s.step x).session.files.node? (placeOf s.config.outputPath)
      = some (.file script) := by
  have retained := retains_step s x
  cases x with
  | putFile file content | removeFile file =>
    refine ⟨before, retained _ _ written (.inr ?_)⟩
    rw [Step.touched, List.mem_singleton]
    exact (isOther_eq_true_iff.1 spared).2.symm
  | generate device => exact isFile_generate written
  | generateOrSkip device =>
    rw [session_generateOrSkip]
    exact isFile_generate written
  | _ => exact ⟨before, retained _ _ written (.inr List.not_mem_nil)⟩

/-- So it keeps all of this. -/
theorem keeps_step {x : Step} {before : ByteArray} (spared : x.spares s.config device = true)
    (apart : placeOf s.config.manifestPath ≠ placeOf s.config.outputPath)
    (written : s.files.node? (placeOf s.config.outputPath) = some (.file before)) :
    s.Keeps device (s.step x).session := by
  have retained := retains_step s x
  obtain ⟨script, isFile⟩ := isFile_step spared written
  obtain ⟨files, counters, collections, session_eq, same⟩ := session_step_of_spares spared
  rw [session_eq] at retained isFile ⊢
  constructor
  case manifest =>
    intro content isFile
    exact retained _ _ isFile (.inr (manifest_notMem_touched spared apart))
  case output => simp [isFile]
  case counters => exact same
  case metricSets =>
    intro tile
    rfl
  case config | columnShift | rowShift => rfl

/-- **Steps that spare what a script depends on keep it.** -/
theorem keeps_run {steps : List Step} {before : ByteArray}
    (spared : ∀ x ∈ steps, x.spares s.config device = true)
    (apart : placeOf s.config.manifestPath ≠ placeOf s.config.outputPath)
    (written : s.files.node? (placeOf s.config.outputPath) = some (.file before)) :
    s.Keeps device (s.run steps).2.1 := by
  induction steps generalizing s before with
  | nil => exact .refl (by simp [written])
  | cons x xs ih =>
    obtain ⟨sparedFirst, sparedRest⟩ := List.forall_mem_cons.1 spared
    have first := keeps_step sparedFirst apart written
    obtain ⟨script, stillWritten⟩ := isFile_step sparedFirst written
    rw [← first.config] at sparedRest apart stillWritten
    exact first.trans (ih sparedRest apart stillWritten)

/-- The session that has written the script for a device and gone on with some steps. -/
def later (s : Session) (device : UInt64) (steps : List Step) : Session :=
  (s.run (.generate device :: steps)).2.1

/-- The run itself keeps what the script depends on. -/
theorem keeps_later_nil {report : Report} (h : (s.generate device).outcome = .ok report)
    (apart : placeOf s.config.manifestPath ≠ placeOf s.config.outputPath) :
    s.Keeps device (s.later device []) where
  manifest content isFile :=
    retains_generate s device _ _ isFile (.inr (by simpa using apart))
  output := by
    obtain ⟨script, isFile⟩ := isFile_of_generate h
    exact fun isDirectory => nomatch isFile.symm.trans isDirectory
  counters := rfl
  metricSets _ := rfl
  config := rfl
  columnShift := rfl
  rowShift := rfl

section Kept

variable (keeps : s.files.KeepsDirectories t.files) (kept : s.Keeps device t)

include keeps kept in
/-- The manifest has the same records. -/
theorem lists_of_keeps {records : List Record} (h : s.Lists records) : t.Lists records := by
  obtain ⟨⟨text, read, rfl⟩, nonempty⟩ := h
  have readStill := keeps.read (FileTree.readText_eq_ok_iff.1 read) kept.manifest
  refine ⟨⟨text, ?_, rfl⟩, nonempty⟩
  rw [kept.config]
  exact FileTree.readText_eq_ok_iff.2 readStill

include keeps kept in
/-- A run that succeeded succeeds again, with the same report. -/
theorem outcome_of_keeps {report : Report} (h : (s.generate device).outcome = .ok report) :
    (t.generate device).outcome = .ok report := by
  cases outcome_iff.1 h with
  | success shifts listed counted pointed staged possible free =>
    have goodShifts : t.HasGoodShifts :=
      ⟨kept.columnShift ▸ shifts.column, kept.rowShift ▸ shifts.row⟩
    have stillFree : ¬t.files.LeadsToDirectory (Path.components s.config.outputPath) := by
      rintro ⟨place, follow, isDirectory⟩
      obtain rfl := FileTree.eq_foldl_enter_of_walk follow
      exact kept.output isDirectory
    rw [← kept.counters] at counted
    rw [← kept.config] at possible stillFree
    have stillStaged := keeps.canStage staged
    rw [← kept.config] at stillStaged
    have again := outcome_of_outcome (.success goodShifts (lists_of_keeps keeps kept listed) counted
      pointed stillStaged possible stillFree)
    rw [kept.config, kept.counters] at again
    exact again

include kept in
/-- The same records come to the same script. -/
theorem scriptFor_of_keeps (shifts : ChipShifts) (records : List Record) :
    t.scriptFor device shifts records = s.scriptFor device shifts records := by
  have described :
      Resolver.describe ⟨shifts, t.metricSets⟩ = Resolver.describe ⟨shifts, s.metricSets⟩ := by
    funext c
    simp only [Resolver.describe, kept.metricSets]
  simp only [scriptFor, kept.config, kept.counters, described]

include keeps kept in
/-- A script is written again as it was written. -/
theorem read_of_keeps {report : Report} (h : (s.generate device).outcome = .ok report) :
    ∃ script, (s.generate device).files.read s.config.outputPath = .ok script ∧
      (t.generate device).files.read t.config.outputPath = .ok script := by
  obtain ⟨shifts, records, -, checked, listed, -⟩ := hasWritten_of_generate h
  refine ⟨_, read_generate h checked listed, ?_⟩
  rw [← scriptFor_of_keeps kept]
  refine read_generate (outcome_of_keeps keeps kept h) ?_ (lists_of_keeps keeps kept listed)
  rw [kept.columnShift, kept.rowShift, checked]

end Kept

/-- **A script is written again.**  After a run that succeeds, a session may go on in any way that
keeps what the script depends on: with no step, with steps that are about other files or other
devices, or with any others.  Then the run succeeds again with the same report, and writes the same
bytes. -/
theorem generate_again {report : Report} (h : (s.generate device).outcome = .ok report)
    (apart : placeOf s.config.manifestPath ≠ placeOf s.config.outputPath) (steps : List Step) :
    ((∀ x ∈ steps, x.spares s.config device = true) →
        (s.later device []).Keeps device (s.later device steps)) ∧
      ((s.later device []).Keeps device (s.later device steps) →
        ((s.later device steps).generate device).outcome = .ok report ∧
        ∃ script, (s.later device []).files.read s.config.outputPath = .ok script ∧
          ((s.later device steps).generate device).files.read
            (s.later device steps).config.outputPath = .ok script) := by
  constructor
  · intro spared
    obtain ⟨script, written⟩ := isFile_of_generate h
    exact keeps_run (s := s.later device []) spared apart written
  · intro kept
    have keeps : s.files.KeepsDirectories (s.later device steps).files :=
      keepsDirectories_run s (.generate device :: steps)
    have keptSince := (keeps_later_nil h apart).trans kept
    exact ⟨outcome_of_keeps keeps keptSince h, read_of_keeps keeps keptSince h⟩

/-- Steps of all kinds that spare what a script depends on.  Directories cannot be made in place of
the manifest, and another device has its script written over the first one. -/
def meanwhile : List Step :=
  [.putFile "notes.txt" ⟨#[]⟩, .makeDirectory "./aie_profile_timestamps.csv/x",
    .addCounter 7 ⟨⟨0, 2⟩, 1, "memory", 3⟩, .putCollection ⟨.core, "x"⟩ [], .generate 7,
    .generateOrSkip 9, .removeFile "../w/notes.txt", .readManifest "notes.txt"]

theorem generate_again_meanwhile :
    (twoPrograms.generate 1).outcome = .ok ⟨"w/aie_profile.ct", 2, 3, 2⟩ ∧
      placeOf twoPrograms.config.manifestPath ≠ placeOf twoPrograms.config.outputPath ∧
      (∀ x ∈ meanwhile, x.spares twoPrograms.config 1 = true) ∧
      (twoPrograms.later 1 []).Keeps 1 (twoPrograms.later 1 meanwhile) ∧
      ((twoPrograms.later 1 meanwhile).generate 1).outcome
        = .ok ⟨"w/aie_profile.ct", 2, 3, 2⟩ ∧
      ∃ script, (twoPrograms.later 1 []).files.read twoPrograms.config.outputPath = .ok script ∧
        ((twoPrograms.later 1 meanwhile).generate 1).files.read
          (twoPrograms.later 1 meanwhile).config.outputPath = .ok script := by
  have succeeds : (twoPrograms.generate 1).outcome = .ok ⟨"w/aie_profile.ct", 2, 3, 2⟩ := rfl
  have apart : placeOf twoPrograms.config.manifestPath
      ≠ placeOf twoPrograms.config.outputPath := by decide
  have spared : ∀ x ∈ meanwhile, x.spares twoPrograms.config 1 = true := by decide
  obtain ⟨keeps, again⟩ := generate_again succeeds apart meanwhile
  exact ⟨succeeds, apart, spared, keeps spared, again (keeps spared)⟩

end CounterTrace.Session
