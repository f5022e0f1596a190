import CounterTrace.Proofs.Atomicity
import CounterTrace.Proofs.Content
import CounterTrace.Proofs.Fields
import CounterTrace.Proofs.LineEnds
import CounterTrace.Proofs.ProgramName

/-!
# What a report counts

A report gives the number of control programs, of counters and of probes.  The last two can be
counted again in the script that has been written: a probe has one line that begins with `jprobe:`,
a counter has one entry, and no other line begins in the same way.  A value that broke a line could
make a line that does, so no value may have a line feed in it; the names of control programs never
have one, since they come from the lines of a manifest.
-/

namespace CounterTrace

namespace Script

open Text (dropReturn lines_unlines quoted unlines)

/-- How many lines of a text begin with a given text. -/
def countLines (start text : String) : Nat :=
  (Text.lines text.toList).countP fun line => start.toList.isPrefixOf line

/-- A line that is read without its carriage return begins in the same way. -/
theorem isPrefixOf_dropReturn {start : List Char} (h : '\r' ∉ start) (line : List Char) :
    start.isPrefixOf (dropReturn line) = start.isPrefixOf line := by
  unfold dropReturn
  split
  · rename_i ends
    obtain ⟨init, rfl⟩ := List.getLast?_eq_some_iff.1 ends
    rw [List.dropLast_concat, Bool.eq_iff_iff, List.isPrefixOf_iff_prefix,
      List.isPrefixOf_iff_prefix, List.prefix_concat_iff]
    constructor
    · intro starts
      exact .inr starts
    · rintro (rfl | starts)
      · simp at h
      · exact starts
  · rfl

/-- The lines of a text are counted as they were written. -/
theorem countLines_unlines {start : String} (noReturn : '\r' ∉ start.toList) {ls : List String}
    (oneLine : ∀ l ∈ ls, IsLine l) :
    countLines start (unlines ls) = ls.countP (startsWith start) := by
  rw [countLines, lines_unlines oneLine, List.countP_map]
  refine List.countP_congr fun l _ => ?_
  rw [Function.comp_apply, isPrefixOf_dropReturn noReturn]
  rfl

/-- What the lines begin with that are counted: where a probe fires, and the entry of a counter. -/
def marks : List String :=
  ["jprobe:", "        \x7b\"column\": "]

/-- What the lines of a probe begin with that have something of its block in them. -/
def probeStarts : List String :=
  ["# Probes for ", "    ctr_", "    \"asm_file\": ", "        \x7b\"col\": "]

theorem apart_of_mem_marks :
    ∀ mark ∈ marks, ∀ start ∈ probeStarts,
      startsWith start mark = false ∧ startsWith mark start = false := by
  decide

/-- No line is counted that begins as a line of a probe. -/
theorem startsWith_mark_eq_false {mark start line : String} (isMark : mark ∈ marks)
    (isStart : start ∈ probeStarts) (h : startsWith start line = true) :
    startsWith mark line = false := by
  obtain ⟨apart, apart'⟩ := apart_of_mem_marks mark isMark start isStart
  exact startsWith_eq_false h apart apart'

theorem countP_startsWith_eq_zero {mark start : String} {lines : List String}
    (isMark : mark ∈ marks) (isStart : start ∈ probeStarts)
    (h : ∀ line ∈ lines, startsWith start line = true) :
    lines.countP (startsWith mark) = 0 := by
  rw [List.countP_eq_zero]
  intro line mem
  rw [Bool.not_eq_true]
  exact startsWith_mark_eq_false isMark isStart (h line mem)

theorem startsWith_groupEntry (g : TileGroup) :
    startsWith "        \x7b\"col\": " (groupEntry g) = true := by
  have col : quoted "col" = "\"col\"" := by decide
  simp [startsWith, groupEntry, object, field, col]

/-- Of the lines of a probe, only the one that says where it fires can be counted. -/
theorem countP_probeLines {mark : String} (isMark : mark ∈ marks) (b : Block) :
    (probeLines b).countP (startsWith mark) = [probeLine b.record].countP (startsWith mark) := by
  have comment : startsWith mark (probeComment b.record) = false :=
    startsWith_mark_eq_false isMark (by decide) (startsWith_probeComment b.record)
  have reads : (b.counters.zipIdx.map fun c => readLine c.1 c.2).countP (startsWith mark) = 0 := by
    have isStart : "    ctr_" ∈ probeStarts := by decide
    exact countP_startsWith_eq_zero isMark isStart fun _ mem => isReadLine_readLines mem
  have file : startsWith mark ("    \"asm_file\": " ++ quoted b.record.baseName ++ ",") = false :=
    startsWith_mark_eq_false isMark (by decide) (startsWith_fileLine b.record)
  have groups : (itemLines (b.groups.map groupEntry)).countP (startsWith mark) = 0 := by
    have entries : ∀ entry ∈ b.groups.map groupEntry,
        startsWith "        \x7b\"col\": " entry = true := by
      rw [List.forall_mem_map]
      exact fun g _ => startsWith_groupEntry g
    exact countP_startsWith_eq_zero isMark (by decide) fun _ mem => startsWith_itemLine entries mem
  simp only [probeLines, List.countP_append, List.countP_cons, comment, reads, file, groups]
  -- the other lines are the same in every probe
  simp only [marks, List.mem_cons, List.not_mem_nil, or_false] at isMark
  rcases isMark with rfl | rfl <;> simp [startsWith]

/-- No line of the end part is counted. -/
theorem countP_endLines {mark : String} (isMark : mark ∈ marks) (config : Config) :
    (endLines config).countP (startsWith mark) = 0 := by
  simp only [marks, List.mem_cons, List.not_mem_nil, or_false] at isMark
  rcases isMark with rfl | rfl <;> simp [endLines, startsWith]

/-- The lines of a script that are counted are in the begin part, or say where a probe fires. -/
theorem countP_lines {mark : String} (isMark : mark ∈ marks) (s : Script) :
    s.lines.countP (startsWith mark)
      = (beginLines s.config s.counters).countP (startsWith mark)
        + ((s.blocks.filter Block.isEmittable).map fun b => probeLine b.record).countP
          (startsWith mark) := by
  have probes (bs : List Block) : (bs.flatMap probeLines).countP (startsWith mark)
      = (bs.map fun b => probeLine b.record).countP (startsWith mark) := by
    induction bs with
    | nil => rfl
    | cons b bs ih =>
      rw [List.flatMap_cons, List.countP_append, countP_probeLines isMark, ih, List.map_cons,
        ← List.countP_append, List.singleton_append]
  rw [lines, List.countP_append, List.countP_append, allProbeLines, countP_endLines isMark, probes,
    Nat.add_zero]

theorem countP_probeLine_beginLines (config : Config) (counters : List Descriptor) :
    (beginLines config counters).countP (startsWith "jprobe:") = 0 := by
  have banner : (bannerLines config.banner).countP (startsWith "jprobe:") = 0 := by
    rw [List.countP_eq_zero]
    intro line mem
    rcases mem_bannerLines mem with ⟨words, -, rfl⟩ | rfl <;> simp [startsWith]
  have entries : (itemLines (counters.map counterEntry)).countP (startsWith "jprobe:") = 0 := by
    rw [List.countP_eq_zero]
    intro line mem
    rw [Bool.not_eq_true]
    exact startsWith_eq_false (isObjectLine_counterEntries mem) (by decide) (by decide)
  simp only [beginLines, List.countP_append, banner, entries]
  simp [startsWith]

/-- **A script has a line that says where a probe fires** for each block that has a probe. -/
theorem countP_probeLine_lines (s : Script) :
    s.lines.countP (startsWith "jprobe:") = s.blocks.countP Block.isEmittable := by
  have all : ∀ line ∈ (s.blocks.filter Block.isEmittable).map fun b => probeLine b.record,
      startsWith "jprobe:" line = true := by
    rw [List.forall_mem_map]
    exact fun b _ => startsWith_probeLine b.record
  rw [countP_lines (by decide), countP_probeLine_beginLines, List.countP_eq_length.2 all,
    List.length_map, List.countP_eq_length_filter, Nat.zero_add]

/-- **A script has an entry** for each of its counters. -/
theorem countP_entry_lines (s : Script) :
    s.lines.countP (startsWith "        \x7b\"column\": ") = s.counters.length := by
  have entries : (beginLines s.config s.counters).countP (startsWith "        \x7b\"column\": ")
      = s.counters.length := by
    have filtered := congrArg List.length (filter_isEntryLine_beginLines s.config s.counters)
    rw [length_itemLines, List.length_map, ← List.countP_eq_length_filter] at filtered
    exact filtered
  have none : ∀ line ∈ (s.blocks.filter Block.isEmittable).map fun b => probeLine b.record,
      ¬startsWith "        \x7b\"column\": " line = true := by
    rw [List.forall_mem_map]
    intro b _
    rw [Bool.not_eq_true]
    exact startsWith_eq_false (startsWith_probeLine b.record) (by decide) (by decide)
  rw [countP_lines (by decide), entries, List.countP_eq_zero.2 none, Nat.add_zero]

/-- Where no value breaks a line, the probes of a script can be counted in its text. -/
theorem countLines_probeLine_text {s : Script} (h : s.content.IsOneLine) :
    countLines "jprobe:" s.text = s.blocks.countP Block.isEmittable := by
  rw [text, countLines_unlines (by decide) (isLine_lines h), countP_probeLine_lines]

/-- So can its counters. -/
theorem countLines_entry_text {s : Script} (h : s.content.IsOneLine) :
    countLines "        \x7b\"column\": " s.text = s.counters.length := by
  rw [text, countLines_unlines (by decide) (isLine_lines h), countP_entry_lines]

end Script

namespace Text

/-- A line has no line feed in it. -/
theorem newline_notMem_lines {text line : List Char} (h : line ∈ lines text) : '\n' ∉ line := by
  fun_induction lines text generalizing line with
  | case1 => simp at h
  | case2 r ih =>
    rcases List.mem_cons.1 h with rfl | later
    · simp
    · exact ih later
  | case3 r ih =>
    rcases List.mem_cons.1 h with rfl | later
    · simp
    · exact ih later
  | case4 c r notNewline notReturn none ih =>
    rw [List.mem_singleton] at h
    rw [h, List.mem_singleton]
    exact fun same => notNewline same.symm
  | case5 c r notNewline notReturn l ls lines_eq ih =>
    rcases List.mem_cons.1 h with rfl | later
    · have first : '\n' ∉ l := ih (lines_eq ▸ List.mem_cons_self)
      rw [List.mem_cons, not_or]
      exact ⟨fun same => notNewline same.symm, first⟩
    · exact ih (lines_eq ▸ List.mem_cons_of_mem _ later)

end Text

namespace Path

/-- What is in a component of a path is in the path. -/
theorem mem_of_mem_component {path component : String} {c : Char}
    (isComponent : component ∈ components path) (isIn : c ∈ component.toList) :
    c ∈ path.toList := by
  obtain ⟨piece, isPiece, rfl⟩ := List.mem_map.1 isComponent
  rw [String.toList_ofList] at isIn
  have back : ['/'].intercalate (path.toList.splitOn '/') = path.toList :=
    List.intercalate_splitOn '/'
  exact back ▸ Manifest.mem_intercalate_of_mem isPiece isIn

theorem mem_of_mem_baseName {path : String} {c : Char} (isIn : c ∈ (baseName path).toList) :
    c ∈ path.toList := by
  rw [baseName] at isIn
  split at isIn
  · exact isIn
  · rename_i last isLast
    split at isIn
    · exact isIn
    · exact mem_of_mem_component (mem_components_of_getLast? isLast) isIn

end Path

namespace Manifest

open Script (IsLine)
open Text (lines newline_notMem_lines)

/-- The file that a line with three fields is about is one of these fields. -/
theorem toList_fileName_mem_fields {line : List Char} {p : Parts}
    (h : Parts.ofLine? line = some p) : p.fileName.toList ∈ fields line := by
  rw [Parts.ofLine?] at h
  split at h
  · rename_i directory fileName list fields_eq
    rw [Option.some.injEq] at h
    rw [fields_eq, ← h, String.toList_ofList]
    exact List.mem_cons_of_mem directory List.mem_cons_self
  · cases h

/-- The file of a record in a manifest is named in one of its lines. -/
theorem isLine_fileName {text : String} {r : Record} (h : r ∈ (ofText text).records) :
    IsLine r.fileName := by
  have given := (accounts_ofText text).records.perm.mem_iff.1 h
  obtain ⟨p, isPart, isRecord⟩ := List.mem_filterMap.1 given
  obtain ⟨line, isRow, hasThree⟩ := List.mem_filterMap.1 isPart
  have isLine : line ∈ lines text.toList := List.mem_of_mem_drop (List.mem_filter.1 isRow).1
  have sameFile : r.fileName = p.fileName := by
    cases made : p.record with
    | error reason => simp [made, Except.toOption] at isRecord
    | ok r' =>
      rw [made, Except.toOption, Option.some.injEq] at isRecord
      exact isRecord ▸ (Record.ofFile_eq_ok_iff.1 made).2.2.1
  intro isIn
  rw [sameFile] at isIn
  exact newline_notMem_lines isLine (mem_of_mem_fields (toList_fileName_mem_fields hasThree) isIn)

/-- **The name of a program in a manifest stays on one line.** -/
theorem isLine_baseName {text : String} {r : Record} (h : r ∈ (ofText text).records) :
    IsLine r.baseName :=
  fun isIn => isLine_fileName h (Path.mem_of_mem_baseName isIn)

end Manifest

/-- A report agrees with the text of a manifest and with that of a script. -/
structure Generator.Report.Counts (report : Report) (manifest script : String) : Prop where
  /-- Each probe has a line that says where it fires. -/
  probeBlocks : report.probeBlocks = Script.countLines "jprobe:" script
  /-- Each counter has an entry. -/
  counters : report.counters = Script.countLines "        \x7b\"column\": " script
  /-- Each record is that of a control program in the manifest. -/
  records : report.records = (Manifest.ofText manifest).records.length
  /-- There are no more probes than records. -/
  probeBlocks_le : report.probeBlocks ≤ report.records

namespace Session

open Script (IsLine)

variable {s : Session} {device : UInt64}

/-- No value of a script breaks a line if no word, module and metric set does. -/
theorem isOneLine_scriptFor (shifts : ChipShifts) (manifest : String)
    (banner : ∀ words ∈ s.config.script.banner, IsLine words)
    (title : IsLine s.config.script.title) (resultsFile : IsLine s.config.script.resultsFile)
    (moduleNames : ∀ c ∈ s.counters.counters device, IsLine c.moduleName)
    (metricSets : ∀ c ∈ s.counters.counters device, ∀ name ∈ s.metricSets.lookup c.tile,
      IsLine name) :
    (s.scriptFor device shifts (Manifest.ofText manifest).records).content.IsOneLine := by
  constructor
  case banner => exact banner
  case title => exact title
  case resultsFile => exact resultsFile
  case moduleNames =>
    simp only [Script.content, scriptFor, List.map_map, List.forall_mem_map]
    exact moduleNames
  case metricSets =>
    simp only [Script.content, scriptFor, List.map_map, List.forall_mem_map]
    exact metricSets
  case programs =>
    simp only [Script.content, List.forall_mem_map]
    intro b isEmittable
    have isBlock := (List.mem_filter.1 isEmittable).1
    obtain ⟨i, isTold, rfl⟩ := List.mem_map.1 isBlock
    obtain ⟨r, isRecord, rfl⟩ := List.mem_map.1 isTold
    exact Manifest.isLine_baseName isRecord

/-- The report of a run is that of the script it has written. -/
theorem report_eq_of_generate {report : Generator.Report} {records : List Record}
    (h : (s.generate device).outcome = .ok report) (shifts : ChipShifts)
    (listed : s.Lists records) :
    report = (s.generatorWith device shifts).report (s.scriptFor device shifts records) := by
  rw [← script_generatorWith, report_script]
  cases outcome_iff.1 h with
  | @success records' _ listed' _ _ _ _ _ =>
    have same : records' = records := (lists_iff.1 listed').1.symm.trans (lists_iff.1 listed).1
    rw [same]

/-- **The report of a run agrees with what the run has read and written**, if no value that goes
into the script has a line feed in it. -/
theorem generate_counts {report : Generator.Report} (h : (s.generate device).outcome = .ok report)
    (banner : ∀ words ∈ s.config.script.banner, IsLine words)
    (title : IsLine s.config.script.title) (resultsFile : IsLine s.config.script.resultsFile)
    (moduleNames : ∀ c ∈ s.counters.counters device, IsLine c.moduleName)
    (metricSets : ∀ c ∈ s.counters.counters device, ∀ name ∈ s.metricSets.lookup c.tile,
      IsLine name) :
    ∃ manifest script, s.files.readText s.config.manifestPath = .ok manifest ∧
      (s.generate device).files.readText s.config.outputPath = .ok script ∧
      report.Counts manifest script := by
  obtain ⟨shifts, records, place, checked, listed, -, written, -⟩ := hasWritten_of_generate h
  obtain ⟨manifest, isRead, rfl⟩ := listed.readable
  refine ⟨manifest, _, isRead, written, ?_⟩
  have oneLine :=
    isOneLine_scriptFor shifts manifest banner title resultsFile moduleNames metricSets
  have isReport := report_eq_of_generate h shifts listed
  constructor
  case probeBlocks => rw [Script.countLines_probeLine_text oneLine, isReport, Generator.report]
  case counters => rw [Script.countLines_entry_text oneLine, isReport, Generator.report]
  case records => rw [isReport, Generator.report, scriptFor, List.length_map, List.length_map]
  case probeBlocks_le =>
    rw [isReport, Generator.report]
    exact List.countP_le_length

/-- `twoPrograms` with words, a module and a metric set that look like the lines counted. -/
def lookalikes : Session :=
  { twoPrograms with
    config := { twoPrograms.config with
      script := ⟨["jprobe:", ""], "\rjprobe:", "        \x7b\"column\": "⟩ }
    counters := twoPrograms.counters.push 1 ⟨⟨0, 3⟩, 1, "        \x7b\"column\": ", 0⟩
    metricSets := twoPrograms.metricSets.insert ⟨⟨0, 3⟩, "jprobe:"⟩ }

theorem generate_counts_lookalikes :
    (lookalikes.generate 1).outcome = .ok ⟨"w/aie_profile.ct", 2, 4, 2⟩ ∧
      (∀ words ∈ lookalikes.config.script.banner, IsLine words) ∧
      IsLine lookalikes.config.script.title ∧ IsLine lookalikes.config.script.resultsFile ∧
      (∀ c ∈ lookalikes.counters.counters 1, IsLine c.moduleName) ∧
      (∀ c ∈ lookalikes.counters.counters 1, ∀ name ∈ lookalikes.metricSets.lookup c.tile,
        IsLine name) ∧
      ∃ manifest script, lookalikes.files.readText lookalikes.config.manifestPath = .ok manifest ∧
        (lookalikes.generate 1).files.readText lookalikes.config.outputPath = .ok script ∧
        Generator.Report.Counts ⟨"w/aie_profile.ct", 2, 4, 2⟩ manifest script := by
  have succeeds : (lookalikes.generate 1).outcome = .ok ⟨"w/aie_profile.ct", 2, 4, 2⟩ := rfl
  have banner : ∀ words ∈ lookalikes.config.script.banner, IsLine words := by decide
  have title : IsLine lookalikes.config.script.title := by decide
  have resultsFile : IsLine lookalikes.config.script.resultsFile := by decide
  have moduleNames : ∀ c ∈ lookalikes.counters.counters 1, IsLine c.moduleName := by decide
  have metricSets : ∀ c ∈ lookalikes.counters.counters 1,
      ∀ name ∈ lookalikes.metricSets.lookup c.tile, IsLine name := by decide
  exact ⟨succeeds, banner, title, resultsFile, moduleNames, metricSets,
    generate_counts succeeds banner title resultsFile moduleNames metricSets⟩

end Session

end CounterTrace
