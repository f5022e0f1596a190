import CounterTrace.Proofs.Install
import CounterTrace.Session.Basic

/-!
# What a run has done

A run that succeeds has found good shifts, a manifest with control programs and probe points, and
counters for its device, and has installed the script that follows from them.  A run that fails has
found one of these missing, or has not been able to install the script.
-/

namespace CounterTrace

namespace Generator

variable {g : Generator} {manifest : Manifest} {files : FileTree} {report : Report}

/-- **When there is a script for a manifest**, and which. -/
theorem plan_eq_ok_iff {script : Script} :
    g.plan manifest = .ok script ↔ manifest.isEmpty = false ∧ g.counters.toList ≠ [] ∧
      manifest.records.any Record.hasPoints = true ∧
        script = g.script (manifest.records.map Record.instrumentation) := by
  rw [plan]
  cases manifest.isEmpty with
  | true => simp
  | false =>
    cases g.counters.toList with
    | nil => simp
    | cons c cs => cases manifest.records.any Record.hasPoints <;> simp [eq_comm]

/-- **Why there is no script for a manifest**: the first thing that is missing decides. -/
theorem plan_eq_error_iff {failure : Failure} :
    g.plan manifest = .error failure ↔
      manifest.records = [] ∧ failure = .noRecords g.config.manifestPath ∨
      manifest.records ≠ [] ∧ g.counters.toList = [] ∧ failure = .noCounters g.device ∨
      manifest.records ≠ [] ∧ g.counters.toList ≠ [] ∧ (∀ r ∈ manifest.records, r.points = []) ∧
        failure = .noProbePoints g.config.manifestPath := by
  have points : manifest.records.any Record.hasPoints = false ↔
      ∀ r ∈ manifest.records, r.points = [] := by
    simp [Record.hasPoints_eq]
  rw [plan, Manifest.isEmpty, ← points]
  cases manifest.records with
  | nil => simp [@eq_comm _ _ failure]
  | cons r rs =>
    cases g.counters.toList with
    | nil => simp [@eq_comm _ _ failure]
    | cons c cs => cases (r :: rs).any Record.hasPoints <;> simp [@eq_comm _ _ failure]

/-- A run without a script for its manifest fails for the same reason. -/
theorem generate_of_plan_error {failure : Failure}
    (planned : g.plan (Manifest.load files g.config.manifestPath) = .error failure) :
    (g.generate files).outcome = .error failure := by
  unfold generate
  simp only [planned]

/-- How a run comes out that has a script to install. -/
theorem generate_of_plan {script : Script}
    (planned : g.plan (Manifest.load files g.config.manifestPath) = .ok script) :
    (g.generate files).outcome =
      match files.install g.config.outputPath script.text.toUTF8 with
      | .error (.stage fault) => .error (.notCreated g.config.outputPath fault)
      | .error (.move fault) => .error (.notWritten g.config.outputPath fault)
      | .ok _ => .ok (g.report script) := by
  unfold generate
  simp only [planned]
  cases files.install g.config.outputPath script.text.toUTF8 with
  | error fault => cases fault <;> rfl
  | ok files' => rfl

/-- The files after a run that has a script to install. -/
theorem files_generate_of_plan {script : Script}
    (planned : g.plan (Manifest.load files g.config.manifestPath) = .ok script) :
    (g.generate files).files =
      match files.install g.config.outputPath script.text.toUTF8 with
      | .error _ => files
      | .ok files' => files' := by
  unfold generate
  simp only [planned]
  cases files.install g.config.outputPath script.text.toUTF8 with
  | error fault => cases fault <;> rfl
  | ok files' => rfl

/-- **What a successful run has installed.** -/
theorem generate_ok (h : (g.generate files).outcome = .ok report) :
    ∃ script, g.plan (Manifest.load files g.config.manifestPath) = .ok script ∧
      files.install g.config.outputPath script.text.toUTF8 = .ok (g.generate files).files ∧
      report = g.report script := by
  unfold generate at h ⊢
  cases planned : g.plan (Manifest.load files g.config.manifestPath) with
  | error failure => simp only [planned, reduceCtorEq] at h
  | ok script =>
    simp only [planned] at h ⊢
    cases installed : files.install g.config.outputPath script.text.toUTF8 with
    | error fault =>
      rw [installed] at h
      cases fault <;> simp only [reduceCtorEq] at h
    | ok files' =>
      simp only [installed, Except.ok.injEq] at h
      exact ⟨script, rfl, by rw [installed], h.symm⟩

end Generator

namespace Session

/-- What a session with good shifts does is what its generator does. -/
theorem generate_of_shifts {s : Session} {device : UInt64} {shifts : ChipShifts}
    (checked : ChipShifts.ofAmounts s.columnShift s.rowShift = .ok shifts) :
    s.generate device = (s.generatorWith device shifts).generate s.files := by
  rw [generate, generator, checked]
  rfl

/-- A session whose run succeeds has good shifts, and what it does is what its generator does. -/
theorem generate_ok {s : Session} {device : UInt64} {report : Generator.Report}
    (h : (s.generate device).outcome = .ok report) :
    ∃ shifts, ChipShifts.ofAmounts s.columnShift s.rowShift = .ok shifts ∧
      s.generate device = (s.generatorWith device shifts).generate s.files := by
  unfold generate generator at h ⊢
  cases checked : ChipShifts.ofAmounts s.columnShift s.rowShift with
  | error fault => simp [checked, Except.map] at h
  | ok shifts => exact ⟨shifts, rfl, rfl⟩

end Session

end CounterTrace
