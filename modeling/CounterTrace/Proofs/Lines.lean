import CounterTrace.Script.Text

/-!
# Kinds of lines in a script

The lines of a script are told apart by how they begin.  Only lines that read counters begin
with a counter's variable, and only the items of lists begin with an object.
-/

namespace CounterTrace.Script

open Text (quoted)

/-- Whether a line begins with the given text. -/
def startsWith (start line : String) : Bool :=
  start.toList.isPrefixOf line.toList

/-- Whether a line of a script reads a counter. -/
def isReadLine (line : String) : Bool :=
  startsWith "    ctr_" line

/-- Whether a line of a script is an object in a list. -/
def isObjectLine (line : String) : Bool :=
  startsWith "        \x7b" line

theorem startsWith_append (start rest : String) : startsWith start (start ++ rest) = true := by
  simp [startsWith]

theorem startsWith_of_prefix {start line longer : String} (h : startsWith start line = true)
    (longer_eq : line.toList <+: longer.toList) : startsWith start longer = true :=
  List.isPrefixOf_iff_prefix.2 ((List.isPrefixOf_iff_prefix.1 h).trans longer_eq)

/-- A line that begins with one text does not begin with another, unless one of these begins with
the other. -/
theorem startsWith_eq_false {start other line : String} (h : startsWith start line = true)
    (apart : startsWith start other = false) (apart' : startsWith other start = false) :
    startsWith other line = false := by
  rw [Bool.eq_false_iff]
  intro h'
  rw [startsWith, List.isPrefixOf_iff_prefix] at h h'
  rcases List.prefix_or_prefix_of_prefix h h' with starts | starts
  · rw [startsWith, List.isPrefixOf_iff_prefix.2 starts] at apart
    exact absurd apart (by decide)
  · rw [startsWith, List.isPrefixOf_iff_prefix.2 starts] at apart'
    exact absurd apart' (by decide)

theorem startsWith_probeComment (r : Instrumentation) :
    startsWith "# Probes for " (probeComment r) = true := by
  unfold probeComment
  simp only [String.append_assoc]
  exact startsWith_append _ _

theorem startsWith_probeLine (r : Instrumentation) : startsWith "jprobe:" (probeLine r) = true := by
  unfold probeLine
  simp only [String.append_assoc]
  exact startsWith_append _ _

/-- The lines at the top are comments, and an empty line. -/
theorem mem_bannerLines {line : String} {banner : List String} (h : line ∈ bannerLines banner) :
    (∃ words ∈ banner, line = "# " ++ words) ∨ line = "" := by
  cases banner with
  | nil => simp [bannerLines] at h
  | cons first banner =>
    rw [bannerLines, if_neg (by simp), List.mem_append, List.mem_singleton] at h
    refine h.imp ?_ id
    intro isComment
    obtain ⟨words, mem, rfl⟩ := List.mem_map.1 isComment
    exact ⟨words, mem, rfl⟩

/-- A line of a list is an item of it, perhaps with a comma behind it. -/
theorem mem_itemLines {line : String} {items : List String} (h : line ∈ itemLines items) :
    ∃ item ∈ items, line = item ∨ line = item ++ "," := by
  induction items with
  | nil => simp [itemLines] at h
  | cons first items ih =>
    cases items with
    | nil =>
      rw [itemLines, List.mem_singleton] at h
      exact ⟨first, by simp, .inl h⟩
    | cons second items =>
      rcases List.mem_cons.1 h with rfl | h
      · exact ⟨first, by simp, .inr rfl⟩
      · obtain ⟨item, mem, line_eq⟩ := ih h
        exact ⟨item, List.mem_cons_of_mem _ mem, line_eq⟩

/-- An item has a line of its own, perhaps with a comma behind it. -/
theorem exists_itemLine {item : String} {items : List String} (h : item ∈ items) :
    ∃ line ∈ itemLines items, item.toList <+: line.toList := by
  induction items with
  | nil => simp at h
  | cons first items ih =>
    cases items with
    | nil =>
      rw [List.mem_singleton] at h
      exact ⟨first, by simp [itemLines], by simp [h]⟩
    | cons second items =>
      rcases List.mem_cons.1 h with rfl | h
      · exact ⟨item ++ ",", by simp [itemLines], by simp⟩
      · obtain ⟨line, mem, starts⟩ := ih h
        exact ⟨line, by simp [itemLines, mem], starts⟩

theorem length_itemLines (items : List String) : (itemLines items).length = items.length := by
  induction items with
  | nil => rfl
  | cons first items ih => cases items <;> simp_all [itemLines]

/-- **Lists differ in their lines.**  There are as many lines as items, so the commas are at the
same places. -/
theorem itemLines_inj {xs ys : List String} (h : itemLines xs = itemLines ys) : xs = ys := by
  have lengths : xs.length = ys.length := by
    rw [← length_itemLines xs, h, length_itemLines]
  induction xs generalizing ys with
  | nil => exact (List.length_eq_zero_iff.1 lengths.symm).symm
  | cons x xs ih =>
    cases ys with
    | nil => simp at lengths
    | cons y ys =>
      cases xs with
      | nil =>
        cases ys with
        | nil => simpa [itemLines] using h
        | cons y' ys => simp at lengths
      | cons x' xs =>
        cases ys with
        | nil => simp at lengths
        | cons y' ys =>
          obtain ⟨first, rest⟩ := List.cons.inj h
          rw [(String.append_left_inj ",").1 first, ih rest (Nat.succ.inj lengths)]

/-- The lines of a list begin with a text that every item begins with. -/
theorem startsWith_itemLine {start line : String} {items : List String}
    (h : ∀ item ∈ items, startsWith start item = true) (mem : line ∈ itemLines items) :
    startsWith start line = true := by
  obtain ⟨item, isItem, rfl | rfl⟩ := mem_itemLines mem
  · exact h line isItem
  · exact startsWith_of_prefix (h item isItem) (by simp)

theorem isObjectLine_object (fields : List String) : isObjectLine (object fields) = true := by
  rw [object, String.append_assoc]
  exact startsWith_append _ _

/-- The entries of counters are objects. -/
theorem isObjectLine_counterEntries {line : String} {counters : List Descriptor}
    (h : line ∈ itemLines (counters.map counterEntry)) : isObjectLine line = true := by
  refine startsWith_itemLine (fun item mem => ?_) h
  obtain ⟨d, -, rfl⟩ := List.mem_map.1 mem
  exact isObjectLine_object _

/-- So are the entries of tiles. -/
theorem isObjectLine_groupEntries {line : String} {groups : List TileGroup}
    (h : line ∈ itemLines (groups.map groupEntry)) : isObjectLine line = true := by
  refine startsWith_itemLine (fun item mem => ?_) h
  obtain ⟨g, -, rfl⟩ := List.mem_map.1 mem
  exact isObjectLine_object _

/-- An object reads no counter. -/
theorem isReadLine_of_isObjectLine {line : String} (h : isObjectLine line = true) :
    isReadLine line = false :=
  startsWith_eq_false h (by decide) (by decide)

theorem isReadLine_readLine (d : Descriptor) (i : Nat) : isReadLine (readLine d i) = true := by
  simp [isReadLine, startsWith, readLine, counterVariable]

theorem isReadLine_readLines {b : Block} {line : String}
    (h : line ∈ b.counters.zipIdx.map fun c => readLine c.1 c.2) : isReadLine line = true := by
  obtain ⟨c, -, rfl⟩ := List.mem_map.1 h
  exact isReadLine_readLine _ _

/-- A line that reads a counter is no object. -/
theorem isObjectLine_of_isReadLine {line : String} (h : isReadLine line = true) :
    isObjectLine line = false :=
  startsWith_eq_false h (by decide) (by decide)

theorem startsWith_fileLine (r : Instrumentation) :
    startsWith "    \"asm_file\": " ("    \"asm_file\": " ++ quoted r.baseName ++ ",") = true := by
  rw [String.append_assoc]
  exact startsWith_append _ _

/-- The lines of a probe that read counters are those made for its counters. -/
theorem filter_isReadLine_probeLines (b : Block) :
    (probeLines b).filter isReadLine = b.counters.zipIdx.map fun c => readLine c.1 c.2 := by
  have reads : (b.counters.zipIdx.map fun c => readLine c.1 c.2).filter isReadLine
      = b.counters.zipIdx.map fun c => readLine c.1 c.2 :=
    List.filter_eq_self.2 fun line mem => isReadLine_readLines mem
  have groups : (itemLines (b.groups.map groupEntry)).filter isReadLine = [] :=
    List.filter_eq_nil_iff.2 fun line mem => by
      simp [isReadLine_of_isObjectLine (isObjectLine_groupEntries mem)]
  have comment : isReadLine (probeComment b.record) = false :=
    startsWith_eq_false (startsWith_probeComment b.record) (by decide) (by decide)
  have fires : isReadLine (probeLine b.record) = false :=
    startsWith_eq_false (startsWith_probeLine b.record) (by decide) (by decide)
  have file : isReadLine ("    \"asm_file\": " ++ quoted b.record.baseName ++ ",") = false :=
    startsWith_eq_false (startsWith_fileLine b.record) (by decide) (by decide)
  simp only [probeLines, List.filter_append, reads, groups, List.filter_cons, comment, fires, file]
  simp [isReadLine, startsWith]

/-- The objects among the lines of a probe are the entries of its tiles. -/
theorem filter_isObjectLine_probeLines (b : Block) :
    (probeLines b).filter isObjectLine = itemLines (b.groups.map groupEntry) := by
  have reads : (b.counters.zipIdx.map fun c => readLine c.1 c.2).filter isObjectLine = [] :=
    List.filter_eq_nil_iff.2 fun line mem => by
      simp [isObjectLine_of_isReadLine (isReadLine_readLines mem)]
  have groups : (itemLines (b.groups.map groupEntry)).filter isObjectLine
      = itemLines (b.groups.map groupEntry) :=
    List.filter_eq_self.2 fun line mem => isObjectLine_groupEntries mem
  have comment : isObjectLine (probeComment b.record) = false :=
    startsWith_eq_false (startsWith_probeComment b.record) (by decide) (by decide)
  have fires : isObjectLine (probeLine b.record) = false :=
    startsWith_eq_false (startsWith_probeLine b.record) (by decide) (by decide)
  have file : isObjectLine ("    \"asm_file\": " ++ quoted b.record.baseName ++ ",") = false :=
    startsWith_eq_false (startsWith_fileLine b.record) (by decide) (by decide)
  simp only [probeLines, List.filter_append, reads, groups, List.filter_cons, comment, fires, file]
  simp [isObjectLine, startsWith]

end CounterTrace.Script
