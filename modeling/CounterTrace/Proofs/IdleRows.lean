import CounterTrace.Proofs.Atomicity
import CounterTrace.Proofs.Fields
import CounterTrace.Proofs.LineEnds
import CounterTrace.Proofs.Overwriting

/-!
# Rows without a probe

A line of a manifest can fail to give a probe in many ways: it is blank, it is no row of three
fields, its file is not that of a control program, it has no line numbers, or there is no counter in
the columns of its program.  Wherever such a line stands, the script is the same without it, and so
is what is told about the run, except that a line may count as a record.
-/

namespace CounterTrace

open Text

namespace Manifest

/-- What keeps a line of a manifest from giving a probe that samples one of some counters. -/
inductive IsIdle (counters : List Counter) (line : String) : Prop
  /-- The line is blank throughout. -/
  | blank (blank : line.toList.all isBlank = true)
  /-- The line does not have three fields. -/
  | malformed (malformed : (fields line.toList).length ≠ 3)
  /-- The file is not that of a control program. -/
  | refused {parts : Parts} {refusal : Program.Refusal}
    (split : Parts.ofLine? line.toList = some parts) (refused : parts.record = .error refusal)
  /-- No line number is accepted. -/
  | pointless {parts : Parts} (split : Parts.ofLine? line.toList = some parts)
    (pointless : (LineList.ofText parts.list).numbers = [])
  /-- No counter is in the columns of the program. -/
  | unowned {parts : Parts} {number : UInt32} (split : Parts.ofLine? line.toList = some parts)
    (numbered : Program.number parts.fileName = .ok number)
    (unowned : ∀ c ∈ counters, c.tile.column.toNat / 4 ≠ number.toNat)

/-- Whether a line is accepted as a record. -/
def isAccepted (line : String) : Bool :=
  (Row.ofLine line.toList).record?.isSome

variable {counters : List Counter} {line : String}

/-- Without quotes and commas there is one field. -/
theorem fields_eq_singleton {row : List Char} (noQuote : '"' ∉ row) (noComma : ',' ∉ row) :
    fields row = [row] := by
  rw [fields_eq_splitOn noQuote, List.splitOn_eq_singleton noComma]

/-- A blank line would be malformed if it were a row. -/
theorem record?_of_blank (h : line.toList.all isBlank = true) :
    (Row.ofLine line.toList).record? = none := by
  have notIn (c : Char) (visible : isBlank c = false) : c ∉ line.toList := fun mem => by
    simp [List.all_eq_true.1 h c mem] at visible
  rw [Row.ofLine, fields_eq_singleton (notIn '"' (by decide)) (notIn ',' (by decide))]
  rfl

theorem length_fields_of_ofLine? {row : List Char} {parts : Parts}
    (h : Parts.ofLine? row = some parts) : (fields row).length = 3 := by
  rw [Parts.ofLine?] at h
  split at h
  · rename_i split
    rw [split]
    rfl
  · simp at h

/-- A record that an idle line gives is not sampled. -/
theorem IsIdle.isSampled_eq_false {record : Record} (idle : IsIdle counters line)
    (given : (Row.ofLine line.toList).record? = some record) :
    isSampled counters record = false := by
  have fromParts := given
  rw [record?_ofLine, Option.bind_eq_some_iff] at fromParts
  obtain ⟨parts, split, accepted⟩ := fromParts
  have made : parts.record = .ok record := by
    cases h : parts.record <;> simp_all [Except.toOption]
  obtain ⟨number, -, -, points⟩ := Record.ofFile_eq_ok_iff.1 made
  cases idle with
  | blank blank => simp [record?_of_blank blank] at given
  | malformed malformed => exact absurd (length_fields_of_ofLine? split) malformed
  | refused split' refused =>
    rw [split, Option.some.injEq] at split'
    simp [← split', made] at refused
  | pointless split' pointless =>
    rw [split, Option.some.injEq] at split'
    simp [isSampled, Record.hasPoints_eq, points, Parts.points, split', pointless]
  | unowned split' numbered unowned =>
    rw [split, Option.some.injEq] at split'
    subst split'
    rw [number, Except.ok.injEq] at numbered
    have small := record.id.fits
    have same : (UInt32.ofNat record.id.val).toNat = record.id.val := by
      simp only [columnsPerProgram, UInt32.size] at small
      rw [UInt32.toNat_ofNat']
      omega
    rw [← numbered, same] at unowned
    simpa [isSampled] using fun _ => unowned

/-- The records of some lines, in the order of the lines. -/
def bodyRecords (ls : List String) : List Record :=
  (bodyRows ls).filterMap Row.record?

theorem lineRecords_unlines {header : String} {ls : List String}
    (h : ∀ l ∈ header :: ls, '\n' ∉ l.toList) :
    lineRecords (unlines (header :: ls)) = bodyRecords ls := by
  rw [bodyRecords, ← map_fst_rows_unlines h, List.filterMap_map]
  rfl

theorem bodyRecords_append (ls ms : List String) :
    bodyRecords (ls ++ ms) = bodyRecords ls ++ bodyRecords ms := by
  simp only [bodyRecords, bodyRows, List.filter_append, List.map_append, List.filterMap_append]

/-- A line that is accepted adds its record to those of the lines below it. -/
theorem bodyRecords_cons (line : String) (ls : List String) :
    bodyRecords (line :: ls) = (Row.ofLine line.toList).record?.toList ++ bodyRecords ls := by
  cases blank : line.toList.all isBlank with
  | true => simp [bodyRecords, bodyRows, blank, record?_of_blank blank]
  | false =>
    cases h : (Row.ofLine line.toList).record? <;> simp [bodyRecords, bodyRows, blank, h]

section Insertion

variable {header : String} {before after : List String}
  (oneLine : ∀ l ∈ header :: (before ++ line :: after), '\n' ∉ l.toList)

include oneLine

/-- The records of a manifest without one of its lines, and with it. -/
theorem lineRecords_insert :
    lineRecords (unlines (header :: (before ++ after))) = bodyRecords before ++ bodyRecords after ∧
    lineRecords (unlines (header :: (before ++ line :: after)))
      = bodyRecords before ++ ((Row.ofLine line.toList).record?.toList ++ bodyRecords after) := by
  have others : ∀ l ∈ header :: (before ++ after), '\n' ∉ l.toList :=
    fun l mem => oneLine l (by grind)
  rw [lineRecords_unlines others, lineRecords_unlines oneLine, bodyRecords_append,
    bodyRecords_append, bodyRecords_cons]
  exact ⟨rfl, rfl⟩

/-- **An idle line adds no record that is sampled.** -/
theorem filter_isSampled_insert (idle : IsIdle counters line) :
    (ofText (unlines (header :: (before ++ line :: after)))).records.filter (isSampled counters)
      = (ofText (unlines (header :: (before ++ after)))).records.filter (isSampled counters) := by
  obtain ⟨without, inserted⟩ := lineRecords_insert oneLine
  have nothing : (Row.ofLine line.toList).record?.toList.filter (isSampled counters) = [] := by
    refine List.filter_eq_nil_iff.2 fun record given => ?_
    simp [idle.isSampled_eq_false (Option.mem_toList.1 given)]
  rw [records_ofText, records_ofText, filter_sortBy_rank, filter_sortBy_rank, without, inserted]
  simp only [List.filter_append, nothing, List.nil_append]

/-- A line adds a record exactly if it is accepted. -/
theorem length_records_insert :
    (ofText (unlines (header :: (before ++ line :: after)))).records.length
      = (ofText (unlines (header :: (before ++ after)))).records.length
        + if isAccepted line then 1 else 0 := by
  obtain ⟨without, inserted⟩ := lineRecords_insert oneLine
  rw [records_ofText, records_ofText, length_sortBy, length_sortBy, without, inserted, isAccepted]
  cases (Row.ofLine line.toList).record? with
  | none => simp
  | some record =>
    simp
    omega

/-- A line takes no record away. -/
theorem mem_records_insert {record : Record}
    (mem : record ∈ (ofText (unlines (header :: (before ++ after)))).records) :
    record ∈ (ofText (unlines (header :: (before ++ line :: after)))).records := by
  obtain ⟨without, inserted⟩ := lineRecords_insert oneLine
  rw [records_ofText, mem_sortBy, without, List.mem_append] at mem
  rw [records_ofText, mem_sortBy, inserted, List.mem_append, List.mem_append]
  exact mem.imp id .inr

end Insertion

end Manifest

/-- **Only records that are sampled show in a script.** -/
theorem Script.text_eq_of_filter (config : Script.Config) (resolver : Resolver)
    (counters : List Counter) {records records' : List Record}
    (h : records.filter (isSampled counters) = records'.filter (isSampled counters)) :
    Script.text ⟨config, counters.map resolver.describe,
        (records.map Record.instrumentation).map
          (Block.ofRecord (counters.map resolver.describe))⟩
      = Script.text ⟨config, counters.map resolver.describe,
        (records'.map Record.instrumentation).map
          (Block.ofRecord (counters.map resolver.describe))⟩ := by
  simp only [Script.text, Script.lines, Script.allProbeLines, filter_isEmittable_map, h]

namespace Session

variable {s : Session} {device : UInt64}

/-- The session after its manifest is written again, with the given lines. -/
def withManifest (s : Session) (ls : List String) : Session :=
  { s with files := s.files.putFile s.config.manifestPath (unlines ls).toUTF8 }

/-- This is what a step of the session does. -/
theorem session_putFile_manifest (s : Session) (ls : List String) :
    (s.step (.putFile s.config.manifestFile (unlines ls).toUTF8)).session = s.withManifest ls :=
  rfl

/-- A manifest that can be read is written again at one location, which is not a directory. -/
theorem exists_files_withManifest {text : String}
    (readable : s.files.readText s.config.manifestPath = .ok text) :
    ∃ place, s.files.target s.config.manifestPath = .ok place ∧ ∀ ls,
      (s.withManifest ls).files = s.files.set place (.file (unlines ls).toUTF8) := by
  obtain ⟨place, target⟩ :=
    FileTree.exists_target_of_read (FileTree.readText_eq_ok_iff.1 readable)
  exact ⟨place, target, fun ls => FileTree.putFile_of_target target _⟩

/-- A session whose manifest is written again has the records of its lines. -/
theorem lists_withManifest {text : String} {ls : List String}
    (readable : s.files.readText s.config.manifestPath = .ok text)
    (nonempty : (Manifest.ofText (unlines ls)).records ≠ []) :
    (s.withManifest ls).Lists (Manifest.ofText (unlines ls)).records := by
  obtain ⟨place, target, files_eq⟩ := exists_files_withManifest readable
  refine ⟨⟨unlines ls, ?_, rfl⟩, nonempty⟩
  rw [files_eq]
  exact FileTree.readText_set_of_target _ target

/-- Files can be staged and put in their places as before. -/
theorem canInstall_withManifest {text path : String} (ls : List String)
    (readable : s.files.readText s.config.manifestPath = .ok text)
    (staged : s.files.CanStage path) (possible : Path.canBeFile path = true)
    (free : ¬s.files.LeadsToDirectory (Path.components path)) :
    (s.withManifest ls).files.CanStage path ∧
      ¬(s.withManifest ls).files.LeadsToDirectory (Path.components path) := by
  obtain ⟨place, target, files_eq⟩ := exists_files_withManifest readable
  have installs : ∃ files, s.files.install path .empty = .ok files :=
    FileTree.exists_install_iff.2 ⟨staged, possible, free⟩
  have stillInstalls := FileTree.exists_install_set (unlines ls).toUTF8
    (FileTree.ne_nil_of_target target) (FileTree.ne_directory_of_target target) installs
  obtain ⟨staged', -, free'⟩ := FileTree.exists_install_iff.1 stillInstalls
  exact files_eq ls ▸ ⟨staged', free'⟩

/-- The script that a successful run has written, byte by byte. -/
theorem read_generate {report : Generator.Report} {shifts : ChipShifts} {records : List Record}
    (h : (s.generate device).outcome = .ok report)
    (checked : ChipShifts.ofAmounts s.columnShift s.rowShift = .ok shifts)
    (listed : s.Lists records) :
    (s.generate device).files.read s.config.outputPath
      = .ok (s.scriptFor device shifts records).text.toUTF8 := by
  obtain ⟨shifts', records', place, checked', listed', -, read, -⟩ := hasWritten_of_generate h
  obtain rfl : shifts = shifts' := Except.ok.inj (checked.symm.trans checked')
  obtain rfl : records = records' :=
    (lists_iff.1 listed).1.symm.trans (lists_iff.1 listed').1
  exact FileTree.readText_eq_ok_iff.1 read

/-- **An idle line makes no difference to a script.**  Wherever it is inserted into a manifest, a
run that succeeded succeeds, and writes the same script; it has one more record if the line is
accepted, and the same counters and probes. -/
theorem generate_withManifest {report : Generator.Report} {header line : String}
    {before after : List String} (h : (s.generate device).outcome = .ok report)
    (written : s.files.readText s.config.manifestPath
      = .ok (unlines (header :: (before ++ after))))
    (oneLine : ∀ l ∈ header :: (before ++ line :: after), '\n' ∉ l.toList)
    (idle : Manifest.IsIdle (s.counters.counters device) line) :
    ((s.withManifest (header :: (before ++ line :: after))).generate device).outcome
        = .ok { report with
            records := report.records + if Manifest.isAccepted line then 1 else 0 } ∧
      ∃ script, (s.generate device).files.read s.config.outputPath = .ok script ∧
        ((s.withManifest (header :: (before ++ line :: after))).generate device).files.read
          s.config.outputPath = .ok script := by
  have sampled := Manifest.filter_isSampled_insert oneLine idle
  cases outcome_iff.1 h with
  | @success records shifts listed counted pointed staged possible free =>
  obtain ⟨text, read, rfl⟩ := listed.readable
  obtain rfl : text = unlines (header :: (before ++ after)) :=
    Except.ok.inj (read.symm.trans written)
  -- The record that has a point is still there, and so is the way to the script's path.
  obtain ⟨r, mem, hasPoints⟩ := pointed
  have stillMem := Manifest.mem_records_insert oneLine mem
  have stillListed := lists_withManifest written (List.ne_nil_of_mem stillMem)
  obtain ⟨stillStaged, stillFree⟩ := canInstall_withManifest
    (header :: (before ++ line :: after)) written staged possible free
  have success := outcome_of_outcome (s := s.withManifest (header :: (before ++ line :: after)))
    (.success ⟨shifts.column, shifts.row⟩ stillListed counted ⟨r, stillMem, hasPoints⟩ stillStaged
      possible stillFree)
  refine ⟨success.trans ?_, ?_⟩
  · have probes := congrArg List.length sampled
    rw [← List.countP_eq_length_filter, ← List.countP_eq_length_filter] at probes
    rw [Manifest.length_records_insert oneLine]
    simp only [withManifest, probes]
  · obtain ⟨chip, checked⟩ := hasGoodShifts_iff.1 shifts
    refine ⟨_, read_generate h checked listed, (read_generate success checked stillListed).trans ?_⟩
    exact congrArg (fun text => Except.ok text.toUTF8)
      (Script.text_eq_of_filter _ ⟨chip, s.metricSets⟩ _ sampled)

/-- The lines of the manifest of `twoPrograms`, but for the header. -/
def linesOfTwoPrograms : List String :=
  ["/d,aie_runtime_control1.asm,7", "/d,aie_runtime_control0.asm,\"5,6\""]

/-- A line whose record has no points, and comes between the two that there are. -/
def pointlessLine : String :=
  "/d,aie_runtime_control0.asm,x"

theorem generate_withManifest_twoPrograms :
    (twoPrograms.generate 1).outcome = .ok ⟨"w/aie_profile.ct", 2, 3, 2⟩ ∧
      twoPrograms.files.readText twoPrograms.config.manifestPath
        = .ok (unlines ("directory,file,lines" :: (linesOfTwoPrograms ++ []))) ∧
      (∀ l ∈ "directory,file,lines" :: (linesOfTwoPrograms ++ [pointlessLine]), '\n' ∉ l.toList) ∧
      Manifest.IsIdle (twoPrograms.counters.counters 1) pointlessLine ∧
      ((twoPrograms.withManifest
          ("directory,file,lines" :: (linesOfTwoPrograms ++ [pointlessLine]))).generate 1).outcome
        = .ok ⟨"w/aie_profile.ct", 3, 3, 2⟩ ∧
      ∃ script, (twoPrograms.generate 1).files.read twoPrograms.config.outputPath = .ok script ∧
        ((twoPrograms.withManifest
            ("directory,file,lines" :: (linesOfTwoPrograms ++ [pointlessLine]))).generate
          1).files.read twoPrograms.config.outputPath = .ok script := by
  have succeeds : (twoPrograms.generate 1).outcome = .ok ⟨"w/aie_profile.ct", 2, 3, 2⟩ := rfl
  have written : twoPrograms.files.readText twoPrograms.config.manifestPath
      = .ok (unlines ("directory,file,lines" :: (linesOfTwoPrograms ++ []))) := rfl
  have oneLine : ∀ l ∈ "directory,file,lines" :: (linesOfTwoPrograms ++ [pointlessLine]),
      '\n' ∉ l.toList := by decide
  have split : Manifest.Parts.ofLine? pointlessLine.toList
      = some ⟨"/d", "aie_runtime_control0.asm", ['x']⟩ := by decide
  have idle : Manifest.IsIdle (twoPrograms.counters.counters 1) pointlessLine :=
    .pointless split (by decide)
  have accepted : Manifest.isAccepted pointlessLine = true := by decide
  have inserted := generate_withManifest succeeds written oneLine idle
  simp only [accepted, if_true, Nat.reduceAdd] at inserted
  exact ⟨succeeds, written, oneLine, idle, inserted⟩

end Session

end CounterTrace
