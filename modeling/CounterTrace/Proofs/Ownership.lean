import CounterTrace.Proofs.Generation
import CounterTrace.Proofs.Literals

/-!
# Counters and the programs that own them

A control program owns four columns, and its probe reads the counters in them.  What a
successful run has written is told here from the manifest and the counters of the device alone:
which programs have a probe and in which order, and which counters each probe reads.

Counters are told apart by their places in the store, as two of them may have one address.
-/

namespace CounterTrace

open Text (quoted unlines)
open Script (beginLines counterEntry endLines field isReadLine itemLines probeLines readLine
  startsWith)

/-- The counters in the columns of a program, each with its place in the store, in the order of
the store. -/
def ownedBy (p : Nat) (counters : List Counter) : List (Counter × Nat) :=
  counters.zipIdx.filter fun c => decide (c.1.tile.column.toNat / 4 = p)

/-- Whether there is both a point to sample at and a counter to sample. -/
def isSampled (counters : List Counter) (r : Record) : Bool :=
  r.hasPoints && counters.any fun c => decide (c.tile.column.toNat / 4 = r.id.val)

/-- The text of a counter's address. -/
def Resolver.addressText (resolver : Resolver) (c : Counter) : String :=
  formatAddress (resolver.shifts.counterAddress c.tile (.ofName c.moduleName) c.number)

/-- The block in which a record's program samples the counters in its columns. -/
def Resolver.block (resolver : Resolver) (counters : List Counter) (r : Record) : Block :=
  ⟨r.instrumentation, (ownedBy r.id.val counters).map fun c => resolver.describe c.1⟩

/-- Whether a line of a script is the entry of a counter. -/
def isEntryLine (line : String) : Bool :=
  startsWith "        \x7b\"column\": " line

/-- A script for the records of a manifest, given in the order of its lines, in which each
program reads the counters in its columns. -/
structure OwnsColumns (config : Script.Config) (resolver : Resolver) (counters : List Counter)
    (records programs : List Record) (text : String) : Prop where
  /-- The script has a begin part, a block a program, and an end part. -/
  text_eq : text = unlines (beginLines config (counters.map resolver.describe)
    ++ programs.flatMap (fun r => probeLines (resolver.block counters r)) ++ endLines config)
  /-- The begin part has an entry a counter, in the order of the store. -/
  entries : (beginLines config (counters.map resolver.describe)).filter isEntryLine
    = itemLines (counters.map fun c => counterEntry (resolver.describe c))
  /-- The entry of a counter has the text of its address. -/
  address : ∀ c : Counter, (", " ++ field "address" (quoted (resolver.addressText c))).toList
    <:+: (counterEntry (resolver.describe c)).toList
  /-- The block of a program reads the counters in its columns, in the order of the store, each
  at the text of its address. -/
  reads : ∀ r ∈ programs, (probeLines (resolver.block counters r)).filter isReadLine
    = (ownedBy r.id.val counters).mapIdx fun i c =>
      "    ctr_" ++ toString i ++ " = read_reg(" ++ resolver.addressText c.1 ++ ")"
  /-- Blocks come in ascending number of their programs. -/
  ascending : programs.Pairwise fun a b => a.id.val ≤ b.id.val
  /-- The programs of one number are the records of that number with a probe, in the order of the
  manifest. -/
  tied : ∀ p, programs.filter (fun r => decide (r.id.val = p))
    = (records.filter (isSampled counters)).filter fun r => decide (r.id.val = p)
  /-- No counter is read for two programs. -/
  exclusive : ∀ r ∈ programs, ∀ r' ∈ programs, ∀ c ∈ ownedBy r.id.val counters,
    c ∈ ownedBy r'.id.val counters → r.id = r'.id
  /-- No counter in a program's columns is left out of its blocks. -/
  complete : ∀ r ∈ programs, ∀ c i, counters[i]? = some c → r.id.firstColumn ≤ c.tile.column.toNat →
    c.tile.column.toNat ≤ r.id.lastColumn → (c, i) ∈ ownedBy r.id.val counters
  /-- A column has eight bits, so there is no counter for the programs from 64 on. -/
  bounded : ∀ r ∈ programs, r.id.val < 64

theorem mem_ownedBy {p : Nat} {counters : List Counter} {c : Counter} {i : Nat} :
    (c, i) ∈ ownedBy p counters ↔ counters[i]? = some c ∧ c.tile.column.toNat / 4 = p := by
  simp [ownedBy, List.mem_zipIdx_iff_getElem?]

theorem map_fst_ownedBy (p : Nat) (counters : List Counter) :
    (ownedBy p counters).map Prod.fst
      = counters.filter fun c => decide (c.tile.column.toNat / 4 = p) := by
  have places := List.filter_map (f := Prod.fst)
    (p := fun c : Counter => decide (c.tile.column.toNat / 4 = p)) (l := counters.zipIdx)
  rw [List.zipIdx_map_fst] at places
  exact places.symm

variable (resolver : Resolver) (counters : List Counter)

/-- The columns of a record select the counters that its program owns. -/
theorem ofRecord_eq_block (r : Record) :
    Block.ofRecord (counters.map resolver.describe) r.instrumentation
      = resolver.block counters r := by
  have owned := congrArg (List.map resolver.describe) (map_fst_ownedBy r.id.val counters)
  rw [List.map_map] at owned
  simp only [Block.ofRecord, Resolver.block, ColumnRange.select, Record.contains_columns,
    List.filter_map]
  exact congrArg (Block.mk r.instrumentation) owned.symm

theorem ownedBy_eq_nil_iff (p : Nat) :
    ownedBy p counters = [] ↔ ∀ c ∈ counters, c.tile.column.toNat / 4 ≠ p := by
  rw [← List.map_eq_nil_iff (f := Prod.fst), map_fst_ownedBy, List.filter_eq_nil_iff]
  simp

/-- A script has a probe for exactly the records that are sampled. -/
theorem isEmittable_block (r : Record) :
    (resolver.block counters r).isEmittable = isSampled counters r := by
  rw [Bool.eq_iff_iff]
  simp [Block.isEmittable, Resolver.block, isSampled, Record.hasPoints, ownedBy_eq_nil_iff]

/-- The blocks with a probe are those of the records that are sampled. -/
theorem filter_isEmittable_map (records : List Record) :
    ((records.map Record.instrumentation).map
        (Block.ofRecord (counters.map resolver.describe))).filter Block.isEmittable
      = (records.filter (isSampled counters)).map (resolver.block counters) := by
  have blocks : Block.ofRecord (counters.map resolver.describe) ∘ Record.instrumentation
      = resolver.block counters :=
    funext (ofRecord_eq_block resolver counters)
  rw [List.map_map, blocks, List.filter_map]
  congr 2
  funext r
  exact isEmittable_block resolver counters r

/-- The entries of the begin part are those made for the counters. -/
theorem filter_isEntryLine_beginLines (config : Script.Config) (ds : List Descriptor) :
    (beginLines config ds).filter isEntryLine = itemLines (ds.map counterEntry) := by
  have entries : (itemLines (ds.map counterEntry)).filter isEntryLine
      = itemLines (ds.map counterEntry) := by
    refine List.filter_eq_self.2 fun line mem => ?_
    refine Script.startsWith_itemLine (fun item mem => ?_) mem
    obtain ⟨d, -, rfl⟩ := List.mem_map.1 mem
    have column : quoted "column" = "\"column\"" := by decide
    simp [startsWith, counterEntry, Script.object, field, column]
  have banner : (Script.bannerLines config.banner).filter isEntryLine = [] := by
    rw [List.filter_eq_nil_iff]
    intro line mem
    rcases Script.mem_bannerLines mem with ⟨words, -, rfl⟩ | rfl <;> simp [isEntryLine, startsWith]
  simp only [beginLines, List.filter_append, entries, banner]
  simp [isEntryLine, startsWith]

theorem readLine_describe (c : Counter) (i : Nat) :
    readLine (resolver.describe c) i
      = "    ctr_" ++ toString i ++ " = read_reg(" ++ resolver.addressText c ++ ")" := by
  simp [readLine, Script.counterVariable, Resolver.addressText, Resolver.describe,
    ← String.toList_inj]

/-- The block of a record reads the counters that its program owns. -/
theorem filter_isReadLine_block (r : Record) :
    (probeLines (resolver.block counters r)).filter isReadLine
      = (ownedBy r.id.val counters).mapIdx fun i c =>
        "    ctr_" ++ toString i ++ " = read_reg(" ++ resolver.addressText c.1 ++ ")" := by
  rw [Script.filter_isReadLine_probeLines, List.mapIdx_eq_zipIdx_map]
  simp only [Resolver.block, List.zipIdx_map, List.map_map]
  refine List.map_congr_left fun c _ => ?_
  exact readLine_describe resolver c.1.1 c.2

theorem ProgramId.eq_of_val {a b : ProgramId} (h : a.val = b.val) : a = b := by
  cases a
  cases b
  simpa using h

theorem mem_isSampled {r : Record} {records : List Record}
    (h : r ∈ records.filter (isSampled counters)) :
    ∃ c ∈ counters, c.tile.column.toNat / 4 = r.id.val := by
  have sampled := (List.mem_filter.1 h).2
  simp only [isSampled, Bool.and_eq_true, List.any_eq_true, decide_eq_true_eq] at sampled
  exact sampled.2

/-- **The script for the records of a manifest** gives each program the counters in its
columns. -/
theorem ownsColumns_script (config : Script.Config) (records : List Record) :
    OwnsColumns config resolver counters records
      ((sortBy (fun a b => decide (a.id.val ≤ b.id.val)) records).filter (isSampled counters))
      (Script.text ⟨config, counters.map resolver.describe,
        ((sortBy (fun a b => decide (a.id.val ≤ b.id.val)) records).map Record.instrumentation).map
          (Block.ofRecord (counters.map resolver.describe))⟩) where
  text_eq := by
    rw [Script.text, Script.lines, Script.allProbeLines, filter_isEmittable_map,
      List.flatMap_map]
  entries := by
    rw [filter_isEntryLine_beginLines, List.map_map]
    rfl
  address c := by
    rw [Script.counterEntry_eq]
    refine ⟨(Script.entryStart (resolver.describe c) ++ quoted c.moduleName).toList,
      (Script.entryMetricSet (resolver.describe c) ++ Script.entryEnd (resolver.describe c)).toList,
      ?_⟩
    simp only [Script.entryAddress, String.toList_append, List.append_assoc]
    rfl
  reads r _ := filter_isReadLine_block resolver counters r
  ascending :=
    (isStableSort_sortBy (fun r => r.id.val) records).ascending.filter _
  tied p := by
    have swap (l : List Record) :
        (l.filter (isSampled counters)).filter (fun r => decide (r.id.val = p))
          = (l.filter fun r => decide (r.id.val = p)).filter (isSampled counters) := by
      simp only [List.filter_filter, Bool.and_comm]
    rw [swap, swap, (isStableSort_sortBy (fun r => r.id.val) records).tied]
  exclusive r _ r' _ c mine yours := by
    obtain ⟨c, i⟩ := c
    exact ProgramId.eq_of_val ((mem_ownedBy.1 mine).2.symm.trans (mem_ownedBy.1 yours).2)
  complete r _ c i found lower upper := by
    have column := (r.id.mem_columns_iff c.tile.column.toNat).1 ⟨lower, upper⟩
    exact mem_ownedBy.2 ⟨found, column⟩
  bounded r mem := by
    obtain ⟨c, -, column⟩ := mem_isSampled counters mem
    have eightBits := c.tile.column.toNat_lt
    omega

/-- The records of a manifest in the order of its lines. -/
def Manifest.lineRecords (text : String) : List Record :=
  (rows text).filterMap fun row => row.1.record?

theorem Manifest.records_ofText (text : String) :
    (ofText text).records
      = sortBy (fun a b => decide (a.id.val ≤ b.id.val)) (lineRecords text) := by
  simp only [ofText, ofRows, lineRecords, List.filterMap_map]
  rfl

/-- **Column ownership.**  The script that a successful run has written is there to be read, and
gives each program of the manifest the counters of the device in its columns. -/
theorem Session.generate_ownsColumns {s : Session} {device : UInt64} {report : Generator.Report}
    (h : (s.generate device).outcome = .ok report) :
    ∃ shifts programs text, ChipShifts.ofAmounts s.columnShift s.rowShift = .ok shifts ∧
      (s.generate device).files.readText s.config.outputPath = .ok text ∧
      OwnsColumns s.config.script ⟨shifts, s.metricSets⟩ (s.counters.counters device)
        (Manifest.lineRecords (Manifest.textIn s.files s.config.manifestPath)) programs text := by
  obtain ⟨shifts, checked, run⟩ := Session.generate_ok h
  rw [run] at h ⊢
  obtain ⟨script, planned, installed, -⟩ := Generator.generate_ok h
  obtain ⟨-, -, -, isScript⟩ := Generator.plan_eq_ok_iff.1 planned
  let records := Manifest.lineRecords (Manifest.textIn s.files s.config.manifestPath)
  have owns := ownsColumns_script ⟨shifts, s.metricSets⟩ (s.counters.counters device)
    s.config.script records
  rw [← Manifest.records_ofText] at owns
  have parts : script = ⟨s.config.script,
      (s.counters.counters device).map (Resolver.describe ⟨shifts, s.metricSets⟩),
      ((Manifest.load s.files s.config.manifestPath).records.map Record.instrumentation).map
        (Block.ofRecord
          ((s.counters.counters device).map (Resolver.describe ⟨shifts, s.metricSets⟩)))⟩ := by
    simp only [isScript, Generator.script, Session.generatorWith, Resolver.resolve,
      CounterStore.toList_onDevice]
  exact ⟨shifts, _, script.text, checked, FileTree.readText_of_install installed, parts ▸ owns⟩

/-- Two programs, given in descending order, and counters that lie in the columns of the one, of
the other, and of the first again. -/
def twoPrograms : Session :=
  { Session.start "w" with
    files := (Session.start "w").files.putFile "w/aie_profile_timestamps.csv"
      ("directory,file,lines\n/d,aie_runtime_control1.asm,7\n"
        ++ "/d,aie_runtime_control0.asm,\"5,6\"\n").toUTF8
    counters := ((CounterStore.empty.push 1 ⟨⟨4, 2⟩, 0, "aie", 0⟩).push 1
      ⟨⟨0, 2⟩, 0, "aie", 0⟩).push 1 ⟨⟨5, 2⟩, 0, "aie", 0⟩ }

theorem Session.generate_ownsColumns_twoPrograms :
    (twoPrograms.generate 1).outcome = .ok ⟨"w/aie_profile.ct", 2, 3, 2⟩ ∧
      ∃ shifts programs text, ChipShifts.ofAmounts twoPrograms.columnShift twoPrograms.rowShift
          = .ok shifts ∧
        (twoPrograms.generate 1).files.readText twoPrograms.config.outputPath = .ok text ∧
        OwnsColumns twoPrograms.config.script ⟨shifts, twoPrograms.metricSets⟩
          (twoPrograms.counters.counters 1)
          (Manifest.lineRecords (Manifest.textIn twoPrograms.files twoPrograms.config.manifestPath))
          programs text :=
  ⟨rfl, Session.generate_ownsColumns rfl⟩

end CounterTrace
