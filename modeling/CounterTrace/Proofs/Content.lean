import CounterTrace.Proofs.Entries
import CounterTrace.Proofs.Grouping
import CounterTrace.Proofs.OneLine

/-!
# What the text of a script tells

The text of a script tells what the script is meant to carry: the words its maker chose, each
counter in the list of all counters, and of each probe its program, its columns, its controller,
its lines, and the address and tile of each counter that it samples.  It does not tell what is
written nowhere, such as blocks without a probe.

The text is cut into its lines, and the lines into those of the begin part, of each probe and of
the end part.  Each part ends where lines of another kind begin.
-/

namespace CounterTrace

/-- What a probe tells of its block. -/
structure Script.Probe where
  /-- The base name of the control program. -/
  program : String
  firstColumn : UInt32
  lastColumn : UInt32
  core : UInt32
  /-- The lines at which it fires. -/
  lines : List UInt32
  /-- The address and the tile of each counter that it samples. -/
  samples : List (UInt64 × Tile)
deriving DecidableEq, Repr

/-- What the probe for a block tells. -/
def Block.probe (b : Block) : Script.Probe where
  program := b.record.baseName
  firstColumn := b.record.firstColumn
  lastColumn := b.record.lastColumn
  core := b.record.core
  lines := b.record.lines
  samples := b.counters.map fun d => (d.address, d.tile)

namespace Script

/-- What a script carries. -/
structure Content where
  config : Config
  entries : List Entry
  probes : List Probe
deriving DecidableEq, Repr

/-- What a script carries: its words, all counters, and the blocks that have a probe. -/
def content (s : Script) : Content where
  config := s.config
  entries := s.counters.map Entry.ofDescriptor
  probes := (s.blocks.filter Block.isEmittable).map Block.probe

/-- No value that a script carries breaks a line. -/
structure Content.IsOneLine (c : Content) : Prop where
  banner : ∀ words ∈ c.config.banner, IsLine words
  title : IsLine c.config.title
  resultsFile : IsLine c.config.resultsFile
  moduleNames : ∀ e ∈ c.entries, IsLine e.moduleName
  metricSets : ∀ e ∈ c.entries, ∀ name ∈ e.metricSet, IsLine name
  programs : ∀ p ∈ c.probes, IsLine p.program

theorem isLine_beginLines {s : Script} (h : s.content.IsOneLine) :
    ∀ line ∈ beginLines s.config s.counters, IsLine line := by
  have banner : ∀ line ∈ bannerLines s.config.banner, IsLine line := by
    intro line mem
    rcases mem_bannerLines mem with ⟨words, isWords, rfl⟩ | rfl
    · exact isLine_append.2 ⟨by decide, h.banner words isWords⟩
    · decide
  have entries : ∀ line ∈ itemLines (s.counters.map counterEntry), IsLine line := by
    refine fun line => isLine_itemLine fun item mem => ?_
    obtain ⟨d, isCounter, rfl⟩ := List.mem_map.1 mem
    have isEntry : Entry.ofDescriptor d ∈ s.content.entries := List.mem_map_of_mem isCounter
    exact isLine_counterEntry (h.moduleNames _ isEntry) (h.metricSets _ isEntry)
  have title : IsLine s.config.title := h.title
  simp +decide only [beginLines, List.forall_mem_append, List.forall_mem_cons, isLine_append,
    isLine_escaped, title, and_true]
  exact ⟨banner, entries⟩

theorem isLine_endLines {s : Script} (h : s.content.IsOneLine) :
    ∀ line ∈ endLines s.config, IsLine line := by
  have title : IsLine s.config.title := h.title
  have resultsFile : IsLine s.config.resultsFile := h.resultsFile
  simp +decide only [endLines, List.forall_mem_cons, isLine_append, isLine_escaped,
    isLine_quoted, title, resultsFile]

/-- No line of a script has a line feed in it if no value has one. -/
theorem isLine_lines {s : Script} (h : s.content.IsOneLine) : ∀ line ∈ s.lines, IsLine line := by
  have probes : ∀ line ∈ allProbeLines s.blocks, IsLine line := by
    intro line mem
    obtain ⟨b, isBlock, mem⟩ := List.mem_flatMap.1 mem
    have isProbe : b.probe ∈ s.content.probes := List.mem_map_of_mem isBlock
    have program : IsLine b.record.baseName := h.programs b.probe isProbe
    exact isLine_probeLines program line mem
  rw [lines, List.forall_mem_append, List.forall_mem_append]
  exact ⟨⟨isLine_beginLines h, probes⟩, isLine_endLines h⟩

/-- **The banner** ends with the first line that is no comment. -/
theorem bannerLines_append_inj {banner banner' : List String} {r s : List String}
    (h : bannerLines banner ++ "begin" :: r = bannerLines banner' ++ "begin" :: s) :
    banner = banner' ∧ r = s := by
  -- the empty line below a banner is no comment either, so the comments end in any case
  have cut (words : List String) (rest : List String) :
      ∃ below, bannerLines words ++ "begin" :: rest = words.map ("# " ++ ·) ++ below ∧
        EndsRun (startsWith "# ") below := by
    cases words with
    | nil => exact ⟨_, rfl, rfl⟩
    | cons first words => exact ⟨"" :: "begin" :: rest, by simp [bannerLines], rfl⟩
  have comments (words : List String) :
      ∀ line ∈ words.map ("# " ++ ·), startsWith "# " line = true := by
    intro line mem
    obtain ⟨words, -, rfl⟩ := List.mem_map.1 mem
    exact startsWith_append _ _
  obtain ⟨below, eq, ends⟩ := cut banner r
  obtain ⟨below', eq', ends'⟩ := cut banner' s
  obtain ⟨same, -⟩ := append_inj_of_run (comments banner) (comments banner') ends ends'
    (eq.symm.trans (h.trans eq'))
  have same : banner = banner' :=
    (List.map_inj_right fun _ _ => (String.append_right_inj "# ").1).1 same
  rw [same, List.append_cancel_left_eq, List.cons.injEq] at h
  exact ⟨same, h.2⟩

/-- **The begin part** tells its words and all counters. -/
theorem beginLines_append_inj {c c' : Config} {ds es : List Descriptor} {r s : List String}
    (h : beginLines c ds ++ r = beginLines c' es ++ s) :
    c.banner = c'.banner ∧ c.title = c'.title ∧
      ds.map Entry.ofDescriptor = es.map Entry.ofDescriptor ∧ r = s := by
  simp only [beginLines, List.append_assoc, List.cons_append, List.nil_append] at h
  obtain ⟨banner, h⟩ := bannerLines_append_inj h
  simp only [List.cons.injEq, true_and, String.append_left_inj, String.append_right_inj] at h
  obtain ⟨title, h⟩ := h
  obtain ⟨entries, h⟩ := append_inj_of_run (fun _ => isObjectLine_counterEntries)
    (fun _ => isObjectLine_counterEntries) (by rfl) (by rfl) h
  simp only [List.cons.injEq, true_and] at h
  exact ⟨banner, Text.escaped_inj title,
    map_eq_map_of_inj (fun _ _ => counterEntry_inj) (itemLines_inj entries), h⟩

/-- **The lines of a probe** tell the block. -/
theorem probeLines_append_inj {b c : Block} {r s : List String}
    (h : probeLines b ++ r = probeLines c ++ s) : b.probe = c.probe ∧ r = s := by
  simp only [probeLines, List.append_assoc, List.cons_append, List.nil_append, List.cons.injEq,
    true_and] at h
  -- the first two lines have the name of the program as it is, so they are kept until the literal
  -- further down has told the name
  obtain ⟨comment, line, h⟩ := h
  obtain ⟨reads, h⟩ := append_inj_of_run (fun _ => isReadLine_readLines)
    (fun _ => isReadLine_readLines) (by rfl) (by rfl) h
  simp only [List.cons.injEq, true_and, String.append_left_inj, String.append_right_inj] at h
  obtain ⟨program, h⟩ := h
  obtain ⟨groups, h⟩ := append_inj_of_run (fun _ => isObjectLine_groupEntries)
    (fun _ => isObjectLine_groupEntries) (by rfl) (by rfl) h
  simp only [List.cons.injEq, true_and] at h
  have program : b.record.baseName = c.record.baseName := Text.quoted_inj program
  obtain ⟨firstColumn, lastColumn⟩ := probeComment_inj program comment
  obtain ⟨core, lines⟩ := probeLine_inj program line
  -- the entries of the tiles are in an order of their own, but give the place of each counter
  have addresses := readLines_inj reads
  have tiles : b.counters.map Descriptor.tile = c.counters.map Descriptor.tile :=
    TileGroup.ofTiles_inj ((List.map_inj_right fun _ _ => groupEntry_inj).1 (itemLines_inj groups))
  have samples : b.probe.samples = c.probe.samples := by
    simp only [Block.probe, ← List.zip_map', addresses, tiles]
  simp only [Block.probe, Probe.mk.injEq] at samples ⊢
  exact ⟨⟨program, firstColumn, lastColumn, core, lines, samples⟩, h⟩

theorem probeComment_ne_end (r : Instrumentation) : probeComment r ≠ "end" := by
  intro h
  have comment := startsWith_probeComment r
  rw [h] at comment
  exact absurd comment (by decide)

/-- **The probes** go as far as the end part. -/
theorem probes_append_inj {bs cs : List Block} {c c' : Config}
    (h : bs.flatMap probeLines ++ endLines c = cs.flatMap probeLines ++ endLines c') :
    bs.map Block.probe = cs.map Block.probe ∧ endLines c = endLines c' := by
  induction bs generalizing cs with
  | nil =>
    cases cs with
    | nil => exact ⟨rfl, h⟩
    | cons c cs => exact absurd (List.cons.inj h).1.symm (probeComment_ne_end _)
  | cons b bs ih =>
    cases cs with
    | nil => exact absurd (List.cons.inj h).1 (probeComment_ne_end _)
    | cons c cs =>
      simp only [List.flatMap_cons, List.append_assoc] at h
      obtain ⟨first, rest⟩ := probeLines_append_inj h
      obtain ⟨probes, last⟩ := ih rest
      rw [List.map_cons, List.map_cons, first, probes]
      exact ⟨rfl, last⟩

/-- The end part tells the file of the results. -/
theorem resultsFile_eq_of_endLines_eq {c c' : Config} (h : endLines c = endLines c') :
    c.resultsFile = c'.resultsFile := by
  simp only [endLines, List.cons.injEq, true_and, and_true, String.append_left_inj,
    String.append_right_inj] at h
  exact Text.quoted_inj h.2

theorem Config.eq_of_words {c c' : Config} (banner : c.banner = c'.banner)
    (title : c.title = c'.title) (resultsFile : c.resultsFile = c'.resultsFile) : c = c' := by
  cases c
  rw [Config.mk.injEq]
  exact ⟨banner, title, resultsFile⟩

/-- Scripts of the same lines carry the same. -/
theorem content_eq_of_lines_eq {s t : Script} (h : s.lines = t.lines) : s.content = t.content := by
  simp only [lines, allProbeLines, List.append_assoc] at h
  obtain ⟨banner, title, entries, h⟩ := beginLines_append_inj h
  obtain ⟨probes, h⟩ := probes_append_inj h
  have resultsFile := resultsFile_eq_of_endLines_eq h
  have config : s.config = t.config := Config.eq_of_words banner title resultsFile
  rw [content, content, config, entries, probes]

/-- **Scripts of the same text carry the same**, if no value in them breaks a line. -/
theorem content_eq_of_text_eq {s t : Script} (hs : s.content.IsOneLine)
    (ht : t.content.IsOneLine) (h : s.text = t.text) : s.content = t.content :=
  content_eq_of_lines_eq (Text.unlines_inj (isLine_lines hs) (isLine_lines ht) h)

/-- A script for a program that is built in the given directory, with some blocks behind that of the
program.  Its controller and its columns are not those of its number. -/
def inDirectory (directory : String) (others : List Block) : Script :=
  let counter : Descriptor := ⟨⟨4, 2⟩, 0, "a\"b", .core, 0x8237520, some "in:put", some .input⟩
  let record : Instrumentation :=
    ⟨directory, "aie_runtime_control1.asm", 1, 0, 9, 4294967295, [⟨7, -1⟩]⟩
  ⟨{}, [counter], ⟨record, [counter]⟩ :: others⟩

/-- A block without counters, of a program whose name breaks a line. -/
def idleBlock : Block :=
  ⟨⟨"/a", "\n", 1, 4, 4, 7, [⟨7, -1⟩]⟩, []⟩

/-- The directory of a program is written nowhere, and neither is a block without counters. -/
theorem content_eq_of_text_eq_inDirectory :
    (inDirectory "/a" [idleBlock]).text = (inDirectory "/b" []).text ∧
      (inDirectory "/a" [idleBlock]).content = (inDirectory "/b" []).content :=
  have text : (inDirectory "/a" [idleBlock]).text = (inDirectory "/b" []).text := rfl
  ⟨text, content_eq_of_text_eq
    ⟨by decide, by decide, by decide, by decide, by decide, by decide⟩
    ⟨by decide, by decide, by decide, by decide, by decide, by decide⟩ text⟩

theorem counterEntry_eq_of_entry_eq {d e : Descriptor}
    (h : Entry.ofDescriptor d = Entry.ofDescriptor e) : counterEntry d = counterEntry e := by
  rw [Entry.ofDescriptor, Entry.ofDescriptor, Entry.mk.injEq] at h
  obtain ⟨tile, number, moduleName, address, metricSet, direction⟩ := h
  rw [counterEntry, counterEntry, tile, number, moduleName, address, metricSet, direction]

/-- The lines that read counters follow from their addresses. -/
theorem readLines_eq_of_addresses_eq {ds es : List Descriptor}
    (h : ds.map Descriptor.address = es.map Descriptor.address) :
    ds.zipIdx.map (fun c => readLine c.1 c.2) = es.zipIdx.map fun c => readLine c.1 c.2 := by
  have ofAddresses (l : List Descriptor) : l.zipIdx.map (fun c => readLine c.1 c.2)
      = (l.map Descriptor.address).zipIdx.map fun c =>
        "    " ++ counterVariable c.2 ++ " = read_reg(" ++ formatAddress c.1 ++ ")" := by
    rw [List.zipIdx_map, List.map_map]
    rfl
  rw [ofAddresses, ofAddresses, h]

theorem probeLines_eq_of_probe_eq {b c : Block} (h : b.probe = c.probe) :
    probeLines b = probeLines c := by
  rw [Block.probe, Block.probe, Probe.mk.injEq] at h
  obtain ⟨program, firstColumn, lastColumn, core, lines, samples⟩ := h
  have comment : probeComment b.record = probeComment c.record := by
    unfold probeComment
    rw [program, firstColumn, lastColumn]
  have line : probeLine b.record = probeLine c.record := by
    unfold probeLine
    rw [program, core, lines]
  have addresses : b.counters.map Descriptor.address = c.counters.map Descriptor.address := by
    refine map_eq_map_of_inj ?_ samples
    intro d e same
    exact congrArg Prod.fst same
  have tiles : b.counters.map Descriptor.tile = c.counters.map Descriptor.tile := by
    refine map_eq_map_of_inj ?_ samples
    intro d e same
    exact congrArg Prod.snd same
  rw [probeLines, probeLines, comment, line, readLines_eq_of_addresses_eq addresses, program,
    Block.groups, Block.groups, tiles]

/-- **Scripts that carry the same have the same text**: nothing else goes into it. -/
theorem text_eq_of_content_eq {s t : Script} (h : s.content = t.content) : s.text = t.text := by
  rw [content, content, Content.mk.injEq] at h
  obtain ⟨config, entries, probes⟩ := h
  have counters : s.counters.map counterEntry = t.counters.map counterEntry :=
    map_eq_map_of_inj (fun _ _ => counterEntry_eq_of_entry_eq) entries
  have blocks : (s.blocks.filter Block.isEmittable).map probeLines
      = (t.blocks.filter Block.isEmittable).map probeLines :=
    map_eq_map_of_inj (fun _ _ => probeLines_eq_of_probe_eq) probes
  rw [text, text, lines, lines, beginLines, beginLines, allProbeLines, allProbeLines,
    List.flatMap_def, List.flatMap_def, config, counters, blocks]

end Script

end CounterTrace
