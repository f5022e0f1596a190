import CounterTrace.Proofs.Ownership
import CounterTrace.Proofs.Placing
import CounterTrace.Proofs.Staging
import CounterTrace.Session.Run

/-!
# How a run comes out

The first condition that is not met decides how a run comes out: good shifts, a manifest with
control programs, counters, probe points, a directory to stage the script in, and last a path that
can be that of a file.  Where all are met the script is at its path, and nothing else has changed;
where one is not, nothing has changed at all.
-/

namespace CounterTrace

open Generator (Failure Report)

theorem Manifest.isEmpty_eq_false_iff {m : Manifest} : m.isEmpty = false ↔ m.records ≠ [] := by
  simp [isEmpty]

namespace Session

/-- Both shifts of the chip keep a coordinate within an address. -/
structure HasGoodShifts (s : Session) : Prop where
  column : s.columnShift ≤ 56
  row : s.rowShift ≤ 56

/-- The manifest can be read, is text, and its records are those given, of which there are some. -/
structure Lists (s : Session) (records : List Record) : Prop where
  readable : ∃ text, s.files.readText s.config.manifestPath = .ok text ∧
    (Manifest.ofText text).records = records
  nonempty : records ≠ []

/-- **How a run comes out**: the first condition that is not met decides. -/
inductive Outcome (s : Session) (device : UInt64) : Except Failure Report → Prop
  /-- The column's shift is bad. -/
  | badColumn (bad : 56 < s.columnShift) :
    Outcome s device (.error (.badShifts ⟨.column, s.columnShift⟩))
  /-- Only the row's shift is bad. -/
  | badRow (column : s.columnShift ≤ 56) (bad : 56 < s.rowShift) :
    Outcome s device (.error (.badShifts ⟨.row, s.rowShift⟩))
  /-- The manifest cannot be read, or is no text, or has no records. -/
  | noRecords (shifts : s.HasGoodShifts) (unlisted : ∀ records, ¬s.Lists records) :
    Outcome s device (.error (.noRecords s.config.manifestPath))
  /-- The device has no counters. -/
  | noCounters {records : List Record} (shifts : s.HasGoodShifts) (listed : s.Lists records)
    (uncounted : s.counters.counters device = []) :
    Outcome s device (.error (.noCounters device))
  /-- No record has a probe point. -/
  | noProbePoints {records : List Record} (shifts : s.HasGoodShifts) (listed : s.Lists records)
    (counted : s.counters.counters device ≠ []) (pointless : ∀ r ∈ records, r.points = []) :
    Outcome s device (.error (.noProbePoints s.config.manifestPath))
  /-- The script cannot be staged in the directory above its path. -/
  | notCreated {records : List Record} {fault : FileTree.Fault} (shifts : s.HasGoodShifts)
    (listed : s.Lists records) (counted : s.counters.counters device ≠ [])
    (pointed : ∃ r ∈ records, r.points ≠ [])
    (unstaged : s.files.NotStaged s.config.outputPath fault) :
    Outcome s device (.error (.notCreated s.config.outputPath fault))
  /-- The script cannot be moved onto its path. -/
  | notWritten {records : List Record} {fault : FileTree.Fault} (shifts : s.HasGoodShifts)
    (listed : s.Lists records) (counted : s.counters.counters device ≠ [])
    (pointed : ∃ r ∈ records, r.points ≠ []) (staged : s.files.CanStage s.config.outputPath)
    (unmoved : s.files.NotMoved s.config.outputPath fault) :
    Outcome s device (.error (.notWritten s.config.outputPath fault))
  /-- All conditions are met. -/
  | success {records : List Record} (shifts : s.HasGoodShifts)
    (listed : s.Lists records) (counted : s.counters.counters device ≠ [])
    (pointed : ∃ r ∈ records, r.points ≠ []) (staged : s.files.CanStage s.config.outputPath)
    (possible : Path.canBeFile s.config.outputPath = true)
    (free : ¬s.files.LeadsToDirectory (Path.components s.config.outputPath)) :
    Outcome s device (.ok
      { outputPath := s.config.outputPath
        records := records.length
        counters := (s.counters.counters device).length
        probeBlocks := records.countP (isSampled (s.counters.counters device)) })

variable {s : Session} {device : UInt64} {records : List Record}

theorem lists_iff : s.Lists records ↔
    (Manifest.load s.files s.config.manifestPath).records = records ∧ records ≠ [] := by
  have empty : (Manifest.ofText "").records = [] := rfl
  rw [Manifest.load, Manifest.textIn]
  constructor
  · rintro ⟨⟨text, read, rfl⟩, nonempty⟩
    rw [read]
    exact ⟨rfl, nonempty⟩
  · rintro ⟨loaded, nonempty⟩
    cases read : s.files.readText s.config.manifestPath with
    | error fault =>
      rw [read] at loaded
      exact absurd (loaded.symm.trans empty) nonempty
    | ok text =>
      rw [read] at loaded
      exact ⟨⟨text, read, loaded⟩, nonempty⟩

theorem hasGoodShifts_iff :
    s.HasGoodShifts ↔ ∃ shifts, ChipShifts.ofAmounts s.columnShift s.rowShift = .ok shifts := by
  constructor
  · rintro ⟨column, row⟩
    exact ⟨⟨s.columnShift, s.rowShift, column, row⟩, ChipShifts.ofAmounts_eq_ok_iff.2 ⟨rfl, rfl⟩⟩
  · rintro ⟨shifts, checked⟩
    obtain ⟨column, row⟩ := ChipShifts.ofAmounts_eq_ok_iff.1 checked
    exact ⟨column ▸ shifts.column_le, row ▸ shifts.row_le⟩

theorem generate_of_badShifts {fault : ShiftFault}
    (checked : ChipShifts.ofAmounts s.columnShift s.rowShift = .error fault) :
    s.generate device = ⟨.error (.badShifts fault), s.files, []⟩ := by
  rw [generate, generator, checked]
  rfl

theorem any_hasPoints_iff : records.any Record.hasPoints = true ↔ ∃ r ∈ records, r.points ≠ [] := by
  simp [Record.hasPoints_eq]

/-- The script that a session plans for the records of its manifest. -/
theorem plan_of_lists (shifts : ChipShifts) (listed : s.Lists records)
    (counted : s.counters.counters device ≠ []) (pointed : ∃ r ∈ records, r.points ≠ []) :
    (s.generatorWith device shifts).plan (Manifest.load s.files s.config.manifestPath)
      = .ok ((s.generatorWith device shifts).script (records.map Record.instrumentation)) := by
  obtain ⟨loaded, nonempty⟩ := lists_iff.1 listed
  refine Generator.plan_eq_ok_iff.2 ⟨?_, ?_, ?_, by rw [loaded]⟩
  · exact Manifest.isEmpty_eq_false_iff.2 (loaded ▸ nonempty)
  · simpa [generatorWith] using counted
  · rw [loaded]
    exact any_hasPoints_iff.2 pointed

/-- What a script for some records amounts to. -/
theorem report_script (shifts : ChipShifts) (records : List Record) :
    (s.generatorWith device shifts).report
        ((s.generatorWith device shifts).script (records.map Record.instrumentation)) =
      { outputPath := s.config.outputPath
        records := records.length
        counters := (s.counters.counters device).length
        probeBlocks := records.countP (isSampled (s.counters.counters device)) } := by
  have probes := congrArg List.length
    (filter_isEmittable_map ⟨shifts, s.metricSets⟩ (s.counters.counters device) records)
  rw [List.length_map, ← List.countP_eq_length_filter, ← List.countP_eq_length_filter] at probes
  simp only [Generator.report, Generator.script, generatorWith, Resolver.resolve,
    CounterStore.toList_onDevice, List.length_map, probes]

/-- How a run comes out in which all is there for a script. -/
theorem outcome_of_lists (shifts : s.HasGoodShifts) (listed : s.Lists records)
    (counted : s.counters.counters device ≠ []) (pointed : ∃ r ∈ records, r.points ≠ []) :
    ∃ content, (s.generate device).outcome =
      match s.files.install s.config.outputPath content with
      | .error (.stage fault) => .error (.notCreated s.config.outputPath fault)
      | .error (.move fault) => .error (.notWritten s.config.outputPath fault)
      | .ok _ => .ok
        { outputPath := s.config.outputPath
          records := records.length
          counters := (s.counters.counters device).length
          probeBlocks := records.countP (isSampled (s.counters.counters device)) } := by
  obtain ⟨shifts, checked⟩ := hasGoodShifts_iff.1 shifts
  have planned := plan_of_lists shifts listed counted pointed
  refine ⟨((s.generatorWith device shifts).script
    (records.map Record.instrumentation)).text.toUTF8, ?_⟩
  have path : (s.generatorWith device shifts).config.outputPath = s.config.outputPath := rfl
  have outcome := Generator.generate_of_plan planned
  rw [report_script, path] at outcome
  rw [generate_of_shifts checked]
  refine outcome.trans ?_
  cases s.files.install s.config.outputPath _ with
  | error fault => cases fault <;> rfl
  | ok files => rfl

theorem outcome_of_outcome {o : Except Failure Report} (h : Outcome s device o) :
    (s.generate device).outcome = o := by
  cases h with
  | badColumn bad =>
    rw [generate_of_badShifts (ChipShifts.ofAmounts_eq_error_iff.2 (.inl ⟨bad, rfl⟩))]
  | badRow column bad =>
    rw [generate_of_badShifts (ChipShifts.ofAmounts_eq_error_iff.2 (.inr ⟨column, bad, rfl⟩))]
  | noRecords shifts unlisted =>
    obtain ⟨shifts, checked⟩ := hasGoodShifts_iff.1 shifts
    rw [generate_of_shifts checked]
    refine Generator.generate_of_plan_error (Generator.plan_eq_error_iff.2 (.inl ⟨?_, rfl⟩))
    exact Decidable.byContradiction fun nonempty => unlisted _ (lists_iff.2 ⟨rfl, nonempty⟩)
  | noCounters shifts listed uncounted =>
    obtain ⟨shifts, checked⟩ := hasGoodShifts_iff.1 shifts
    obtain ⟨rfl, nonempty⟩ := lists_iff.1 listed
    rw [generate_of_shifts checked]
    refine Generator.generate_of_plan_error
      (Generator.plan_eq_error_iff.2 (.inr (.inl ⟨nonempty, ?_, rfl⟩)))
    simpa [generatorWith] using uncounted
  | noProbePoints shifts listed counted pointless =>
    obtain ⟨shifts, checked⟩ := hasGoodShifts_iff.1 shifts
    obtain ⟨rfl, nonempty⟩ := lists_iff.1 listed
    rw [generate_of_shifts checked]
    refine Generator.generate_of_plan_error
      (Generator.plan_eq_error_iff.2 (.inr (.inr ⟨nonempty, ?_, pointless, rfl⟩)))
    simpa [generatorWith] using counted
  | notCreated shifts listed counted pointed unstaged =>
    obtain ⟨content, outcome⟩ := outcome_of_lists shifts listed counted pointed
    rw [outcome, FileTree.install_eq_stage_iff.2 unstaged]
  | notWritten shifts listed counted pointed staged unmoved =>
    obtain ⟨content, outcome⟩ := outcome_of_lists shifts listed counted pointed
    rw [outcome, FileTree.install_eq_move_iff.2 ⟨staged, unmoved⟩]
  | success shifts listed counted pointed staged possible free =>
    obtain ⟨content, outcome⟩ := outcome_of_lists shifts listed counted pointed
    have installs : ∃ files, s.files.install s.config.outputPath content = .ok files :=
      FileTree.exists_install_iff.2 ⟨staged, possible, free⟩
    obtain ⟨files, installed⟩ := installs
    rw [outcome, installed]

/-- One of the conditions decides in every case. -/
theorem outcome_generate (s : Session) (device : UInt64) :
    Outcome s device (s.generate device).outcome := by
  cases checked : ChipShifts.ofAmounts s.columnShift s.rowShift with
  | error fault =>
    rw [generate_of_badShifts checked]
    rcases ChipShifts.ofAmounts_eq_error_iff.1 checked with ⟨bad, rfl⟩ | ⟨column, bad, rfl⟩
    · exact .badColumn bad
    · exact .badRow column bad
  | ok shifts =>
    have good : s.HasGoodShifts := hasGoodShifts_iff.2 ⟨shifts, checked⟩
    -- A run that has planned a script can fail only in putting it in its place.
    cases planned : (s.generatorWith device shifts).plan
        (Manifest.load s.files s.config.manifestPath) with
    | error failure =>
      rw [generate_of_shifts checked, Generator.generate_of_plan_error planned]
      have counters : (s.generatorWith device shifts).counters.toList
          = s.counters.counters device :=
        CounterStore.toList_onDevice _ _
      rcases Generator.plan_eq_error_iff.1 planned with ⟨unlisted, rfl⟩ |
        ⟨nonempty, uncounted, rfl⟩ | ⟨nonempty, counted, pointless, rfl⟩
      · refine .noRecords good fun records listed => ?_
        obtain ⟨rfl, nonempty⟩ := lists_iff.1 listed
        exact nonempty unlisted
      · exact .noCounters good (lists_iff.2 ⟨rfl, nonempty⟩) (counters ▸ uncounted)
      · exact .noProbePoints good (lists_iff.2 ⟨rfl, nonempty⟩) (counters ▸ counted) pointless
    | ok script =>
      obtain ⟨isListed, counted, pointed, -⟩ := Generator.plan_eq_ok_iff.1 planned
      have listed := lists_iff.2 ⟨rfl, Manifest.isEmpty_eq_false_iff.1 isListed⟩
      rw [any_hasPoints_iff] at pointed
      replace counted : s.counters.counters device ≠ [] := by
        simpa [generatorWith] using counted
      obtain ⟨content, outcome⟩ := outcome_of_lists good listed counted pointed
      rw [outcome]
      cases installed : s.files.install s.config.outputPath content with
      | error fault =>
        cases fault with
        | stage fault =>
          exact .notCreated good listed counted pointed (FileTree.install_eq_stage_iff.1 installed)
        | move fault =>
          obtain ⟨staged, unmoved⟩ := FileTree.install_eq_move_iff.1 installed
          exact .notWritten good listed counted pointed staged unmoved
      | ok files =>
        obtain ⟨staged, possible, free⟩ := FileTree.exists_install_iff.1 ⟨files, installed⟩
        exact .success good listed counted pointed staged possible free

/-- **A run comes out as told by the conditions.** -/
theorem outcome_iff {o : Except Failure Report} :
    (s.generate device).outcome = o ↔ Outcome s device o :=
  ⟨fun h => h ▸ outcome_generate s device, outcome_of_outcome⟩

/-- A run has put the whole script for the records of the manifest at its path, and has changed no
other place. -/
def HasWritten (s : Session) (device : UInt64) : Prop :=
  ∃ shifts records place,
    ChipShifts.ofAmounts s.columnShift s.rowShift = .ok shifts ∧ s.Lists records ∧
    (s.generate device).files.locate s.config.outputPath = .ok place ∧
    (s.generate device).files.readText s.config.outputPath
      = .ok (s.scriptFor device shifts records).text ∧
    ∀ other, other ≠ place → (s.generate device).files.node? other = s.files.node? other

/-- All of a run is done, or nothing. -/
structure IsAtomic (s : Session) (device : UInt64) : Prop where
  /-- The first condition that is not met decides how the run comes out. -/
  outcome : ∀ o, (s.generate device).outcome = o ↔ Outcome s device o
  /-- A run that fails changes no file. -/
  failed : ∀ failure, (s.generate device).outcome = .error failure →
    (s.generate device).files = s.files
  /-- A run that succeeds has put the whole script at its path, and changed no other place. -/
  succeeded : ∀ report, (s.generate device).outcome = .ok report → s.HasWritten device
  /-- There is always a free name to stage the script under. -/
  free : ∃ name, s.files.IsFree s.config.outputPath name
  /-- Whatever free name the script is staged under, staging it and moving it onto its path, or
  removing it again, comes to the same files. -/
  staged : ∀ shifts records name, ChipShifts.ofAmounts s.columnShift s.rowShift = .ok shifts →
    s.Lists records → s.counters.counters device ≠ [] → (∃ r ∈ records, r.points ≠ []) →
    s.files.IsFree s.config.outputPath name →
    (s.files.installUnder name s.config.outputPath
      (s.scriptFor device shifts records).text.toUTF8).2 = (s.generate device).files
  /-- Nothing but the files changes, and those in the same way if the session goes on without a
  script. -/
  kept : ∀ x ∈ [Step.generate device, .generateOrSkip device],
    (s.step x).session = { s with files := (s.generate device).files }
  /-- A session that goes on without a script answers yes exactly if there is one. -/
  answersYes : (s.step (.generateOrSkip device)).answer = .generated true ↔
    ∃ report, (s.generate device).outcome = .ok report
  /-- It answers no exactly to a failure other than bad shifts. -/
  answersNo : (s.step (.generateOrSkip device)).answer = .generated false ↔
    ∃ failure, (s.generate device).outcome = .error failure ∧
      ∀ fault, failure ≠ .badShifts fault
  /-- It still reports bad shifts. -/
  answersFailure : ∀ failure, (s.step (.generateOrSkip device)).answer = .failed failure ↔
    (∃ fault, failure = .badShifts fault) ∧ (s.generate device).outcome = .error failure

theorem files_generate_of_failure {failure : Failure}
    (h : (s.generate device).outcome = .error failure) : (s.generate device).files = s.files := by
  cases checked : ChipShifts.ofAmounts s.columnShift s.rowShift with
  | error fault => rw [generate_of_badShifts checked]
  | ok shifts =>
    rw [generate_of_shifts checked] at h ⊢
    exact Generator.files_generate_of_error h

/-- Going on without a script has the same outcome and the same files. -/
theorem generateOrSkip_eq (s : Session) (device : UInt64) :
    (s.generateOrSkip device).outcome = (s.generate device).outcome ∧
      (s.generateOrSkip device).files = (s.generate device).files := by
  rw [generateOrSkip, generate]
  cases s.generator device with
  | error fault => exact ⟨rfl, rfl⟩
  | ok g => simp only [Generator.generateOrSkip, and_self]

theorem script_generatorWith (shifts : ChipShifts) (records : List Record) :
    (s.generatorWith device shifts).script (records.map Record.instrumentation)
      = s.scriptFor device shifts records := by
  simp only [Generator.script, generatorWith, scriptFor, Resolver.resolve,
    CounterStore.toList_onDevice]

/-- **What a run that succeeds has done.** -/
theorem hasWritten_of_generate {report : Report}
    (h : (s.generate device).outcome = .ok report) : s.HasWritten device := by
  obtain ⟨shifts, checked, run⟩ := generate_ok h
  rw [HasWritten]
  rw [run] at h ⊢
  obtain ⟨script, planned, installed, -⟩ := Generator.generate_ok h
  obtain ⟨isListed, -, -, rfl⟩ := Generator.plan_eq_ok_iff.1 planned
  have listed := lists_iff.2 ⟨rfl, Manifest.isEmpty_eq_false_iff.1 isListed⟩
  have read := FileTree.readText_of_install installed
  obtain ⟨-, place, target, files_eq⟩ := FileTree.install_eq_ok_iff.1 installed
  refine ⟨shifts, _, place, checked, listed, ?_, ?_, fun other apart => ?_⟩
  · rw [files_eq]
    exact FileTree.locate_of_target _ target
  · rw [← script_generatorWith]
    exact read
  · rw [files_eq, FileTree.set_eq_of_ne_nil _ _ (FileTree.ne_nil_of_target target), if_neg apart]

/-- Staging the script under a free name comes to the files after the run. -/
theorem files_generate_of_staged {shifts : ChipShifts} {name : String}
    (checked : ChipShifts.ofAmounts s.columnShift s.rowShift = .ok shifts)
    (listed : s.Lists records) (counted : s.counters.counters device ≠ [])
    (pointed : ∃ r ∈ records, r.points ≠ []) (free : s.files.IsFree s.config.outputPath name) :
    (s.files.installUnder name s.config.outputPath
      (s.scriptFor device shifts records).text.toUTF8).2 = (s.generate device).files := by
  have planned := plan_of_lists shifts listed counted pointed
  rw [generate_of_shifts checked, Generator.files_generate_of_plan planned,
    FileTree.installUnder_eq free, script_generatorWith]
  have path : (s.generatorWith device shifts).config.outputPath = s.config.outputPath := rfl
  rw [path]
  cases s.files.install s.config.outputPath (s.scriptFor device shifts records).text.toUTF8 <;> rfl

/-- What a session answers that goes on without a script. -/
theorem answer_generateOrSkip (s : Session) (device : UInt64) :
    (s.step (.generateOrSkip device)).answer = skipAnswer (s.generate device).outcome :=
  congrArg skipAnswer (generateOrSkip_eq s device).1

/-- A run changes nothing but the files. -/
theorem session_generate (s : Session) (device : UInt64) :
    (s.step (.generate device)).session = { s with files := (s.generate device).files } :=
  congrArg (fun files => { s with files }) (rfl : (s.generate device).files = _)

/-- Going on without a script changes them in the same way. -/
theorem session_generateOrSkip (s : Session) (device : UInt64) :
    (s.step (.generateOrSkip device)).session = { s with files := (s.generate device).files } :=
  congrArg (fun files => { s with files }) (generateOrSkip_eq s device).2

theorem skipAnswer_eq_failed_iff {o : Except Failure Report} {failure : Failure} :
    skipAnswer o = .failed failure ↔
      (∃ fault, failure = .badShifts fault) ∧ o = .error failure := by
  cases o with
  | ok report => simp [skipAnswer]
  | error failure' => cases failure' <;> simp [skipAnswer] <;> grind

theorem skipAnswer_eq_false_iff {o : Except Failure Report} :
    skipAnswer o = .generated false ↔
      ∃ failure, o = .error failure ∧ ∀ fault, failure ≠ .badShifts fault := by
  cases o with
  | ok report => simp [skipAnswer]
  | error failure => cases failure <;> simp [skipAnswer]

theorem skipAnswer_eq_true_iff {o : Except Failure Report} :
    skipAnswer o = .generated true ↔ ∃ report, o = .ok report := by
  cases o with
  | ok report => simp [skipAnswer]
  | error failure => cases failure <;> simp [skipAnswer]

/-- **All of every run is done, or nothing**, and the first condition that is not met decides. -/
theorem generate_isAtomic (s : Session) (device : UInt64) : s.IsAtomic device where
  outcome _ := outcome_iff
  failed _ := files_generate_of_failure
  succeeded _ := hasWritten_of_generate
  free := FileTree.exists_isFree _ _
  staged _ _ _ := files_generate_of_staged
  kept x mem := by
    simp only [List.mem_cons, List.not_mem_nil, or_false] at mem
    rcases mem with rfl | rfl
    · exact session_generate s device
    · exact session_generateOrSkip s device
  answersYes := by rw [answer_generateOrSkip, skipAnswer_eq_true_iff]
  answersNo := by rw [answer_generateOrSkip, skipAnswer_eq_false_iff]
  answersFailure _ := by rw [answer_generateOrSkip, skipAnswer_eq_failed_iff]

end Session

/-- `twoPrograms` with a script to be written under a path that ends in a slash. -/
def slashAtEnd : Session :=
  { twoPrograms with config := { twoPrograms.config with outputFile := "new/" } }

/-- A path that leads to no directory may still not be one for a file. -/
theorem Session.exists_notWritten_without_directory :
    slashAtEnd.HasGoodShifts ∧
      (∃ records, slashAtEnd.Lists records ∧ ∃ r ∈ records, r.points ≠ []) ∧
      slashAtEnd.counters.counters 1 ≠ [] ∧
      slashAtEnd.files.LeadsToDirectory (Path.parent slashAtEnd.config.outputPath) ∧
      ¬slashAtEnd.files.LeadsToDirectory (Path.components slashAtEnd.config.outputPath) ∧
      (slashAtEnd.generate 1).outcome = .error (.notWritten "w/new/" .notDirectory) := by
  have loaded : (Manifest.load slashAtEnd.files slashAtEnd.config.manifestPath).records
      = (Manifest.ofText ("directory,file,lines\n/d,aie_runtime_control1.asm,7\n"
        ++ "/d,aie_runtime_control0.asm,\"5,6\"\n")).records := rfl
  have stopped : slashAtEnd.files.walk [] (Path.components slashAtEnd.config.outputPath)
      = .error .notFound := rfl
  refine ⟨⟨by decide, by decide⟩, ⟨_, lists_iff.2 ⟨loaded, by decide⟩, by decide⟩, by decide,
    ⟨["w"], rfl, rfl⟩, ?_, rfl⟩
  rintro ⟨place, follow, -⟩
  rw [stopped] at follow
  cases follow

end CounterTrace
