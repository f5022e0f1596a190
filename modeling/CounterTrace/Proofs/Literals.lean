import CounterTrace.Proofs.Cutting
import CounterTrace.Proofs.Lines

/-!
# Reading the literals of a script

Reading goes through a line character by character and is outside or inside of a literal.
Inside, a backslash and the character behind it stand for one character; a quote that is not
behind a backslash ends the literal.  What escaping writes is read back as the value it was
made from, and whoever reads on is still inside the same literal: no value can get out of the
quotes it is put between.

Escaping leaves line breaks alone.  A value without any is written soundly, and a value with
one breaks the line that its literal stands on.
-/

namespace CounterTrace

namespace Text

/-- What a character behind a backslash stands for, if it stands for anything there. -/
def unescapeChar? : Char → Option Char
  | '\\' => some '\\'
  | '"' => some '"'
  | 'n' => some '\n'
  | 'r' => some '\r'
  | _ => none

/-- The values of the literals in a text.  Reading begins outside of literals, or inside of one
whose value so far is given.  There is no reading of a literal that is not closed. -/
def readLiterals : Option (List Char) → List Char → Option (List (List Char))
  | none, [] => some []
  | some _, [] => none
  | none, c :: r => if c = '"' then readLiterals (some []) r else readLiterals none r
  | some value, '\\' :: c :: r =>
    match unescapeChar? c with
    | none => none
    | some d => readLiterals (some (value ++ [d])) r
  | some value, c :: r =>
    if c = '"' then (readLiterals none r).map (value :: ·)
    else if c = '\\' then none
    else readLiterals (some (value ++ [c])) r

/-- The text `t` stands for the value `v` inside a literal of one line: it does not break the
line, and between quotes it is read as `v` and nothing else. -/
structure IsSound (t v : List Char) : Prop where
  no_lineFeed : '\n' ∉ t
  no_carriageReturn : '\r' ∉ t
  reads : readLiterals none ('"' :: t ++ ['"']) = some [v]

theorem readLiterals_some_cons {value r : List Char} {c : Char} (backslash : c ≠ '\\')
    (quote : c ≠ '"') :
    readLiterals (some value) (c :: r) = readLiterals (some (value ++ [c])) r := by
  cases r <;> simp [readLiterals, backslash, quote]

theorem readLiterals_escapeChar (value r : List Char) (c : Char) :
    readLiterals (some value) (escapeChar c ++ r) = readLiterals (some (value ++ [c])) r := by
  by_cases hb : c = '\\'
  · subst hb; rfl
  by_cases hq : c = '"'
  · subst hq; rfl
  · rw [escapeChar, if_neg (by simp [hb, hq]), List.singleton_append,
      readLiterals_some_cons hb hq]

/-- **An escaped value is read back**, and whoever reads on is still inside the literal. -/
theorem readLiterals_escape (value s r : List Char) :
    readLiterals (some value) (escape s ++ r) = readLiterals (some (value ++ s)) r := by
  induction s generalizing value with
  | nil => simp
  | cons c s ih =>
    rw [escape_cons, List.append_assoc, readLiterals_escapeChar, ih]
    simp

/-- The quote behind a value ends its literal. -/
theorem readLiterals_close (value r : List Char) :
    readLiterals (some value) ('"' :: r) = (readLiterals none r).map (value :: ·) := by
  cases r <;> simp [readLiterals]

/-- Reading `s` from outside gives the values `vs` and ends outside. -/
def Yields (s : List Char) (vs : List (List Char)) : Prop :=
  ∀ r, readLiterals none (s ++ r) = (readLiterals none r).map (vs ++ ·)

/-- Reading `s` from outside gives the values `vs` and ends inside a literal that has the value
`value` so far. -/
def Opens (s : List Char) (vs : List (List Char)) (value : List Char) : Prop :=
  ∀ r, readLiterals none (s ++ r) = (readLiterals (some value) r).map (vs ++ ·)

variable {s t value : List Char} {vs ws : List (List Char)}

theorem Yields.readLiterals_eq (h : Yields s vs) : readLiterals none s = some vs := by
  simpa [readLiterals] using h []

theorem Yields.append (hs : Yields s vs) (ht : Yields t ws) : Yields (s ++ t) (vs ++ ws) := by
  intro r
  rw [List.append_assoc, hs, ht, Option.map_map]
  simp [Function.comp_def]

/-- Text without quotes has no literals. -/
theorem Yields.of_notMem (h : '"' ∉ s) : Yields s [] := by
  intro r
  induction s with
  | nil => simp
  | cons c s ih =>
    rw [List.mem_cons, not_or] at h
    have hc : c ≠ '"' := fun e => h.1 e.symm
    rw [List.cons_append, readLiterals, if_neg hc, ih h.2]

/-- A quoted value is a literal of that value. -/
theorem yields_quoted (v : String) : Yields (quoted v).toList [v.toList] := by
  intro r
  simp only [quoted, String.toList_append, toList_escaped, String.reduceToList, List.append_assoc,
    List.cons_append, List.nil_append]
  rw [readLiterals, if_pos rfl, readLiterals_escape, readLiterals_close]
  rfl

/-- Values differ in their literals. -/
theorem quoted_inj {v w : String} (h : quoted v = quoted w) : v = w := by
  have reads := (yields_quoted v).readLiterals_eq
  rw [h, (yields_quoted w).readLiterals_eq, Option.some.injEq, List.singleton_inj] at reads
  exact (String.toList_inj.1 reads).symm

/-- Values differ in their escaped text. -/
theorem escaped_inj {v w : String} (h : escaped v = escaped w) : v = w :=
  quoted_inj (by rw [quoted, quoted, h])

/-- Text with a quote behind it opens a literal. -/
theorem Yields.opens (h : Yields s vs) : Opens (s ++ ['"']) vs [] := by
  intro r
  rw [List.append_assoc, h]
  simp [readLiterals]

/-- An escaped value goes into the literal that is open. -/
theorem Opens.escape (h : Opens s vs value) (v : List Char) :
    Opens (s ++ escape v) vs (value ++ v) := by
  intro r
  rw [List.append_assoc, h, readLiterals_escape]

theorem mem_escape_of_ne {c : Char} (backslash : c ≠ '\\') (s : List Char) :
    c ∈ escape s ↔ c ∈ s := by
  induction s with
  | nil => simp
  | cons d s ih =>
    rw [escape_cons, List.mem_append, ih, List.mem_cons, escapeChar]
    split <;> simp [backslash]

/-- **The values whose escaped text is sound** are those without line breaks. -/
theorem isSound_escape_iff (s : List Char) :
    IsSound (escape s) s ↔ '\n' ∉ s ∧ '\r' ∉ s := by
  constructor
  · intro h
    rw [← mem_escape_of_ne (by decide) s, ← mem_escape_of_ne (c := '\r') (by decide) s]
    exact ⟨h.no_lineFeed, h.no_carriageReturn⟩
  · rintro ⟨hn, hr⟩
    refine ⟨?_, ?_, ?_⟩
    · rwa [mem_escape_of_ne (by decide)]
    · rwa [mem_escape_of_ne (by decide)]
    · simpa [quoted] using (yields_quoted (String.ofList s)).readLiterals_eq

end Text

open Text

/-- A place of a line at which a value stands, escaped, inside of a literal. -/
structure Slot where
  /-- The line up to the value, with the quote that opens its literal. -/
  before : String
  value : String
  /-- The rest of the line, with the quote that closes the literal. -/
  after : String

/-- The line that a place is on. -/
def Slot.line (slot : Slot) : String :=
  slot.before ++ escaped slot.value ++ slot.after

namespace Script

/-- The entry of a counter up to the name of its module. -/
def entryStart (d : Descriptor) : String :=
  "        \x7b" ++ field "column" (toString d.tile.column.toNat) ++ ", "
    ++ field "row" (toString d.tile.row.toNat) ++ ", "
    ++ field "counter" (toString d.number.toNat) ++ ", "
    ++ quoted "module" ++ ": "

/-- The entry of a counter between the name of its module and its metric set. -/
def entryAddress (d : Descriptor) : String :=
  ", " ++ field "address" (quoted (formatAddress d.address))

/-- The metric set in the entry of a counter. -/
def entryMetricSet (d : Descriptor) : String :=
  match d.metricSet with
  | none => ""
  | some name => ", " ++ field "metric_set" (quoted name)

/-- The direction in the entry of a counter, and the end of the entry. -/
def entryEnd (d : Descriptor) : String :=
  match d.direction with
  | none => "\x7d"
  | some direction => ", " ++ field "port_direction" (quoted direction.name) ++ "\x7d"

/-- The entry of a counter, cut at the values that a configuration chooses. -/
theorem counterEntry_eq (d : Descriptor) :
    counterEntry d = entryStart d ++ quoted d.moduleName ++ entryAddress d ++ entryMetricSet d
      ++ entryEnd d := by
  unfold counterEntry entryStart entryAddress entryMetricSet entryEnd object field
  cases d.metricSet <;> cases d.direction <;>
    simp [← String.toList_inj]

/-- The places in the entry of a counter. -/
def counterSlots (d : Descriptor) : List Slot :=
  ⟨entryStart d ++ "\"", d.moduleName, "\"" ++ entryAddress d ++ entryMetricSet d ++ entryEnd d⟩
    :: match d.metricSet with
      | none => []
      | some name =>
        [⟨entryStart d ++ quoted d.moduleName ++ entryAddress d ++ ", "
            ++ quoted "metric_set" ++ ": \"", name, "\"" ++ entryEnd d⟩]

/-- The place of a control program's name in the probe for it. -/
def programSlot (b : Block) : Slot :=
  ⟨"    \"asm_file\": \"", b.record.baseName, "\","⟩

/-- The places of a script: the title twice, the module and the metric set of each counter, the
control program of each probe, and the file of the results. -/
def slots (s : Script) : List Slot :=
  ⟨"    print(\"\\n", s.config.title, " tracing started\\n\")"⟩
    :: s.counters.flatMap counterSlots
    ++ (s.blocks.filter Block.isEmittable).map programSlot
    ++ [⟨"    print(\"\\n", s.config.title, " tracing ended\\n\")"⟩,
      ⟨"output_path = os.path.join(os.getcwd(), \"", s.config.resultsFile, "\")"⟩]

theorem yields_field {name value : String} {vs : List (List Char)} (h : Yields value.toList vs) :
    Yields (field name value).toList (name.toList :: vs) := by
  simp only [field, String.toList_append]
  exact ((yields_quoted name).append (.of_notMem (by decide))).append h

/-- The names in the entry of a counter up to its module. -/
theorem yields_entryStart (d : Descriptor) :
    Yields (entryStart d).toList
      ["column".toList, "row".toList, "counter".toList, "module".toList] := by
  have number (name : String) (n : Nat) : Yields (field name (toString n)).toList [name.toList] :=
    yields_field (.of_notMem (notMem_toString (by decide) n))
  have comma : Yields ", ".toList [] := .of_notMem (by decide)
  unfold entryStart
  simp only [String.toList_append]
  exact ((((((((Yields.of_notMem (by decide)).append (number _ _)).append comma).append
    (number _ _)).append comma).append (number _ _)).append comma).append
      (yields_quoted _)).append (.of_notMem (by decide))

theorem yields_entryAddress (d : Descriptor) :
    Yields (entryAddress d).toList ["address".toList, (formatAddress d.address).toList] := by
  simp only [entryAddress, String.toList_append]
  exact (Yields.of_notMem (by decide)).append (yields_field (yields_quoted _))

/-- The literals in the part of an entry that tells a metric set. -/
def metricSetValues (metricSet : Option String) : List (List Char) :=
  metricSet.elim [] fun name => ["metric_set".toList, name.toList]

/-- The literals in the part of an entry that tells a direction. -/
def directionValues (direction : Option Direction) : List (List Char) :=
  direction.elim [] fun direction => ["port_direction".toList, direction.name.toList]

theorem yields_entryMetricSet (d : Descriptor) :
    Yields (entryMetricSet d).toList (metricSetValues d.metricSet) := by
  rw [entryMetricSet]
  cases d.metricSet with
  | none => exact .of_notMem (by decide)
  | some name =>
    simp only [String.toList_append]
    exact (Yields.of_notMem (by decide)).append (yields_field (yields_quoted _))

theorem yields_entryEnd (d : Descriptor) :
    Yields (entryEnd d).toList (directionValues d.direction) := by
  rw [entryEnd]
  cases d.direction with
  | none => exact .of_notMem (by decide)
  | some direction =>
    simp only [String.toList_append]
    exact ((Yields.of_notMem (by decide)).append (yields_field (yields_quoted _))).append
      (.of_notMem (by decide))

/-- The literals in the entry of a counter. -/
theorem yields_counterEntry (d : Descriptor) :
    Yields (counterEntry d).toList
      (["column".toList, "row".toList, "counter".toList, "module".toList] ++ [d.moduleName.toList]
        ++ ["address".toList, (formatAddress d.address).toList] ++ metricSetValues d.metricSet
        ++ directionValues d.direction) := by
  rw [counterEntry_eq]
  simp only [String.toList_append]
  exact ((((yields_entryStart d).append (yields_quoted _)).append (yields_entryAddress d)).append
    (yields_entryMetricSet d)).append (yields_entryEnd d)

/-- The place of a module's name is inside of a literal, and so is that of a metric set. -/
theorem opens_counterSlot {d : Descriptor} {slot : Slot} (h : slot ∈ counterSlots d) :
    ∃ vs, Opens slot.before.toList vs [] := by
  have start := yields_entryStart d
  rw [counterSlots] at h
  rcases List.mem_cons.1 h with rfl | h
  · exact ⟨_, by simpa using start.opens⟩
  · cases hm : d.metricSet with
    | none => simp [hm] at h
    | some name =>
      rw [hm, List.mem_singleton] at h
      subst h
      have named : Yields (", " ++ quoted "metric_set" ++ ": ").toList ["metric_set".toList] := by
        simp only [String.toList_append]
        exact ((Yields.of_notMem (by decide)).append (yields_quoted _)).append
          (.of_notMem (by decide))
      have all := ((start.append (yields_quoted d.moduleName)).append
        (yields_entryAddress d)).append named
      exact ⟨_, by simpa using all.opens⟩

/-- Every place of a script is inside of a literal. -/
theorem opens_slot {s : Script} {slot : Slot} (h : slot ∈ s.slots) :
    ∃ vs value, Opens slot.before.toList vs value := by
  have title : Opens "    print(\"\\n".toList [] ['\n'] := by
    intro r
    simp [readLiterals, unescapeChar?]
  have program : Opens "    \"asm_file\": \"".toList ["asm_file".toList] [] := by
    intro r
    simp [readLiterals]
  have results : Opens "output_path = os.path.join(os.getcwd(), \"".toList [] [] := by
    intro r
    simp [readLiterals]
  simp only [slots, List.cons_append, List.mem_cons, List.mem_append, List.mem_flatMap,
    List.mem_map, List.not_mem_nil, or_false] at h
  rcases h with rfl | (⟨d, -, hd⟩ | ⟨b, -, rfl⟩) | rfl | rfl
  · exact ⟨_, _, title⟩
  · obtain ⟨vs, opens⟩ := opens_counterSlot hd
    exact ⟨vs, [], opens⟩
  · exact ⟨_, _, program⟩
  · exact ⟨_, _, title⟩
  · exact ⟨_, _, results⟩

theorem line_counterSlot {d : Descriptor} {slot : Slot} (h : slot ∈ counterSlots d) :
    slot.line = counterEntry d := by
  rw [counterEntry_eq]
  rw [counterSlots] at h
  rcases List.mem_cons.1 h with rfl | h
  · simp [Slot.line, quoted, ← String.toList_inj]
  · cases hm : d.metricSet with
    | none => simp [hm] at h
    | some name =>
      rw [hm, List.mem_singleton] at h
      subst h
      have metric : entryMetricSet d = ", " ++ field "metric_set" (quoted name) := by
        rw [entryMetricSet, hm]
      simp [Slot.line, metric, field, quoted, ← String.toList_inj]

/-- Every place of a script is on one of its lines. -/
theorem exists_line_of_slot {s : Script} {slot : Slot} (h : slot ∈ s.slots) :
    ∃ line ∈ s.lines, slot.line.toList <+: line.toList := by
  simp only [slots, List.cons_append, List.mem_cons, List.mem_append, List.mem_flatMap,
    List.mem_map, List.not_mem_nil, or_false] at h
  rcases h with rfl | (⟨d, hd, hslot⟩ | ⟨b, hb, rfl⟩) | rfl | rfl
  · exact ⟨_, by simp [lines, beginLines, Slot.line], List.prefix_rfl⟩
  · obtain ⟨line, mem, pre⟩ := exists_itemLine (List.mem_map_of_mem (f := counterEntry) hd)
    rw [← line_counterSlot hslot] at pre
    exact ⟨line, by simp [lines, beginLines, mem], pre⟩
  · have line : (programSlot b).line = "    \"asm_file\": " ++ quoted b.record.baseName ++ "," := by
      simp [programSlot, Slot.line, quoted, ← String.toList_inj]
    have mem : (programSlot b).line ∈ probeLines b := by
      simp [probeLines, line]
    refine ⟨(programSlot b).line, ?_, List.prefix_rfl⟩
    exact List.mem_append_left _ (List.mem_append_right _ (List.mem_flatMap_of_mem hb mem))
  · exact ⟨_, by simp [lines, endLines, Slot.line], List.prefix_rfl⟩
  · have line :
        Slot.line ⟨"output_path = os.path.join(os.getcwd(), \"", s.config.resultsFile, "\")"⟩
          = "output_path = os.path.join(os.getcwd(), " ++ quoted s.config.resultsFile ++ ")" := by
      simp [Slot.line, quoted, ← String.toList_inj]
    exact ⟨_, by simp [lines, endLines, line], List.prefix_rfl⟩

/-- **What a script writes for a value.**  The place of the value is on a line of the script, and
inside of a literal there.  What is written is read back as the value, and leaves the reader
inside of the same literal, whatever the value is.  Yet it is sound for a value without line
breaks only, as nothing is done about those. -/
theorem isSound_slot_iff (s : Script) (slot : Slot) (h : slot ∈ s.slots) :
    (∃ line ∈ s.lines, slot.line.toList <+: line.toList) ∧
    (∃ vs value, Opens slot.before.toList vs value ∧
      Opens (slot.before ++ escaped slot.value).toList vs (value ++ slot.value.toList)) ∧
    (IsSound (escaped slot.value).toList slot.value.toList ↔
      '\n' ∉ slot.value.toList ∧ '\r' ∉ slot.value.toList) := by
  refine ⟨exists_line_of_slot h, ?_, ?_⟩
  · obtain ⟨vs, value, opens⟩ := opens_slot h
    refine ⟨vs, value, opens, ?_⟩
    rw [String.toList_append, toList_escaped]
    exact opens.escape _
  · rw [toList_escaped]
    exact isSound_escape_iff _

/-- A title of quotes and backslashes is written soundly, and one of two lines is not. -/
theorem isSound_title_iff_oneLine :
    (⟨"    print(\"\\n", "\"\\\"", " tracing started\\n\")"⟩ : Slot)
        ∈ (⟨{ title := "\"\\\"" }, [], []⟩ : Script).slots ∧
      IsSound (escaped "\"\\\"").toList "\"\\\"".toList ∧
    (⟨"    print(\"\\n", "a\nb", " tracing started\\n\")"⟩ : Slot)
        ∈ (⟨{ title := "a\nb" }, [], []⟩ : Script).slots ∧
      ¬IsSound (escaped "a\nb").toList "a\nb".toList := by
  have quotes : (⟨"    print(\"\\n", "\"\\\"", " tracing started\\n\")"⟩ : Slot)
      ∈ (⟨{ title := "\"\\\"" }, [], []⟩ : Script).slots := List.mem_cons_self
  have twoLines : (⟨"    print(\"\\n", "a\nb", " tracing started\\n\")"⟩ : Slot)
      ∈ (⟨{ title := "a\nb" }, [], []⟩ : Script).slots := List.mem_cons_self
  refine ⟨quotes, ?_, twoLines, ?_⟩
  · exact (isSound_slot_iff _ _ quotes).2.2.2 (by decide)
  · intro sound
    exact absurd ((isSound_slot_iff _ _ twoLines).2.2.1 sound).1 (by decide)

end Script

end CounterTrace
