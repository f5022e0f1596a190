import CounterTrace.Proofs.Entries
import CounterTrace.Proofs.Grouping
import CounterTrace.Proofs.LineNumbers

/-!
# What a probe reads and what it lists

A probe reads each of its counters into a variable, and then lists the variables tile by tile.  Here
both are read off the lines of the probe: the variable in front of a register's value, and the
names between the brackets in the entry of a tile.
-/

namespace CounterTrace

namespace Script

open Text

/-- The variable that a line reads a counter into: behind the indent, up to the next space. -/
def variableRead (line : String) : String :=
  String.ofList ((line.toList.drop 4).takeWhile fun c => decide (c ≠ ' '))

/-- The variables into which counters are read. -/
def variablesRead (lines : List String) : List String :=
  (lines.filter isReadLine).map variableRead

/-- What an entry lists its names under: the text in front of the bracket. -/
def listedUnder (entry : String) : String :=
  String.ofList (entry.toList.takeWhile fun c => decide (c ≠ '['))

/-- The names that an entry lists: what stands between the commas within its brackets. -/
def listedNames (entry : String) : List String :=
  let behind := (entry.toList.dropWhile fun c => decide (c ≠ '[')).drop 1
  let within := behind.takeWhile fun c => decide (c ≠ ']')
  (within.splitOn ',').map fun name => String.ofList (trim name)

/-- The names that an entry lists, each with what it is listed under. -/
def listedIn (entry : String) : List (String × String) :=
  (listedNames entry).map fun name => (listedUnder entry, name)

/-- The names in the entries among some lines, each with what it is listed under. -/
def listed (lines : List String) : List (String × String) :=
  (lines.filter isObjectLine).flatMap listedIn

/-- What the counters of a tile are listed under: its column and its row. -/
def tileStart (tile : Tile) : String :=
  "        \x7b\"col\": " ++ toString tile.column.toNat ++ ", \"row\": " ++ toString tile.row.toNat
    ++ ", \"counters\": "

/-- **Each variable that is read is listed once**, under the tile of its counter, and no other name
is listed. -/
structure ListsEachOnce (b : Block) (lines : List String) : Prop where
  reads : variablesRead lines = (List.range b.counters.length).map fun i => "ctr_" ++ toString i
  distinct : (variablesRead lines).Nodup
  lists : (listed lines).Perm ((b.counters.map fun d => tileStart d.tile).zip (variablesRead lines))

theorem decide_ne_of_notMem {s : List Char} {c : Char} (h : c ∉ s) :
    ∀ d ∈ s, decide (d ≠ c) = true := by
  intro d mem
  rw [decide_eq_true_eq]
  intro same
  exact h (same ▸ mem)

theorem takeWhile_ne_append {s r : List Char} {c : Char} (h : c ∉ s) :
    (s ++ c :: r).takeWhile (fun d => decide (d ≠ c)) = s := by
  rw [List.takeWhile_append_of_pos (decide_ne_of_notMem h), List.takeWhile_cons_of_neg (by simp),
    List.append_nil]

theorem drop_dropWhile_ne_append {s r : List Char} {c : Char} (h : c ∉ s) :
    ((s ++ c :: r).dropWhile fun d => decide (d ≠ c)).drop 1 = r := by
  rw [List.dropWhile_append_of_pos (decide_ne_of_notMem h), List.dropWhile_cons_of_neg (by simp),
    List.drop_one, List.tail_cons]

theorem isBlank_of_mem_counterVariable {i : Nat} {c : Char}
    (h : c ∈ (counterVariable i).toList) : isBlank c = false := by
  rw [counterVariable, String.toList_append, List.mem_append] at h
  have letters : ("ctr_".toList.all fun c => !isBlank c) = true := by decide
  rcases h with letter | digit
  · simpa using List.all_eq_true.1 letters c letter
  · exact isBlank_of_isDigit (isDigit_of_mem_toString digit)

theorem variableRead_readLine (d : Descriptor) (i : Nat) :
    variableRead (readLine d i) = counterVariable i := by
  have assign : " = read_reg(" = " " ++ "= read_reg(" := by decide
  have line : (readLine d i).toList = "    ".toList ++ ((counterVariable i).toList
      ++ ' ' :: ("= read_reg(" ++ (formatAddress d.address ++ ")")).toList) := by
    rw [readLine, assign]
    simp only [String.append_assoc, String.toList_append]
    rfl
  have noSpace : ' ' ∉ (counterVariable i).toList :=
    notMem_counterVariable (by decide) (by decide) i
  rw [variableRead, line, List.drop_left' (by decide), takeWhile_ne_append noSpace,
    String.ofList_toList]

theorem map_variableRead_readLines (counters : List Descriptor) :
    (counters.zipIdx.map fun c => readLine c.1 c.2).map variableRead
      = (List.range counters.length).map counterVariable := by
  have places : counters.zipIdx.map Prod.snd = List.range counters.length := by
    rw [List.zipIdx_map_snd, List.range_eq_range']
  rw [← places, List.map_map, List.map_map]
  refine List.map_congr_left ?_
  intro c _
  exact variableRead_readLine c.1 c.2

/-- The entry of a tile has the names of its counters between brackets. -/
theorem groupEntry_eq (g : TileGroup) : groupEntry g = tileStart g.tile ++ ("["
    ++ (", ".intercalate (g.members.map counterVariable) ++ ("]" ++ "\x7d"))) := by
  have start : "        \x7b" ++ (quoted "col" ++ ": ") = "        \x7b\"col\": " := by decide
  have row : ", " ++ (quoted "row" ++ ": ") = ", \"row\": " := by decide
  have counters : ", " ++ (quoted "counters" ++ ": ") = ", \"counters\": " := by decide
  have three (a b c : String) :
      ", ".intercalate [a, b, c] = a ++ (", " ++ (b ++ (", " ++ c))) := by
    simp [← String.toList_inj]
  unfold groupEntry tileStart
  rw [object, field, field, field, three, ← start, ← row, ← counters]
  simp only [String.append_assoc]

theorem bracket_notMem_tileStart (tile : Tile) : '[' ∉ (tileStart tile).toList := by
  have digits (n : Nat) : '[' ∉ (toString n).toList := notMem_toString (by decide) n
  unfold tileStart
  simp only [String.toList_append, List.mem_append, not_or]
  exact ⟨⟨⟨⟨by decide, digits _⟩, by decide⟩, digits _⟩, by decide⟩

/-- White space behind the commas can as well be part of the items. -/
theorem intercalate_comma_space (name : List Char) (names : List (List Char)) :
    [',', ' '].intercalate (name :: names) = [','].intercalate (name :: names.map (' ' :: ·)) := by
  induction names generalizing name with
  | nil => rfl
  | cons next names ih =>
    have rest := ih next
    cases names with
    | nil => simp [List.intercalate_cons_cons]
    | cons last names =>
      rw [List.intercalate_cons_cons, rest]
      simp [List.intercalate_cons_cons]

/-- Items with commas and spaces between them come back when the text is cut and trimmed. -/
theorem map_trim_splitOn {names : List (List Char)} (nonempty : names ≠ [])
    (noComma : ∀ name ∈ names, ',' ∉ name)
    (notBlank : ∀ name ∈ names, ∀ c ∈ name, isBlank c = false) :
    (([',', ' '].intercalate names).splitOn ',').map trim = names := by
  cases names with
  | nil => exact absurd rfl nonempty
  | cons name names =>
    obtain ⟨first, rest⟩ := List.forall_mem_cons.1 noComma
    obtain ⟨first', rest'⟩ := List.forall_mem_cons.1 notBlank
    have noComma' : ∀ piece ∈ name :: names.map (' ' :: ·), ',' ∉ piece := by
      rw [List.forall_mem_cons, List.forall_mem_map]
      refine ⟨first, ?_⟩
      intro other mem
      rw [List.mem_cons, not_or]
      exact ⟨by decide, rest other mem⟩
    have trimmed (before : List Char) (blank : before.all isBlank = true) :
        ∀ other ∈ name :: names, trim (before ++ other) = other := by
      intro other mem
      have isTrimmed : IsTrimmed (before ++ other ++ []) other :=
        isTrimmed_of_notBlank blank rfl (notBlank other mem)
      rw [List.append_nil] at isTrimmed
      exact isTrimmed_iff.1 isTrimmed
    rw [intercalate_comma_space, List.splitOn_intercalate ',' noComma' (by simp), List.map_cons,
      List.map_map, List.cons.injEq]
    refine ⟨trimmed [] rfl name List.mem_cons_self, ?_⟩
    have each : ∀ other ∈ names, (trim ∘ (' ' :: ·)) other = id other := by
      intro other mem
      exact trimmed [' '] (by decide) other (List.mem_cons_of_mem name mem)
    rw [List.map_congr_left each, List.map_id]

/-- The variables of the counters of a tile. -/
def memberNames (g : TileGroup) : List (List Char) :=
  g.members.map fun i => (counterVariable i).toList

theorem notMem_memberNames {c : Char} (other : c ∉ "ctr_".toList) (notDigit : c.isDigit = false)
    {g : TileGroup} : ∀ name ∈ memberNames g, c ∉ name := by
  intro name mem
  obtain ⟨i, -, rfl⟩ := List.mem_map.1 mem
  exact notMem_counterVariable other notDigit i

theorem bracket_notMem_memberNames (g : TileGroup) :
    ']' ∉ [',', ' '].intercalate (memberNames g) := by
  intro mem
  rcases Manifest.mem_intercalate mem with isSeparator | ⟨name, isName, bracket⟩
  · exact absurd isSeparator (by decide)
  · exact notMem_memberNames (by decide) (by decide) name isName bracket

/-- The variables come back when what stands between the brackets is cut and trimmed. -/
theorem map_trim_splitOn_memberNames {g : TileGroup} (nonempty : g.members ≠ []) :
    (([',', ' '].intercalate (memberNames g)).splitOn ',').map trim = memberNames g := by
  apply map_trim_splitOn
  · simpa [memberNames] using nonempty
  · exact notMem_memberNames (by decide) (by decide)
  · intro name mem c isIn
    obtain ⟨i, -, rfl⟩ := List.mem_map.1 mem
    exact isBlank_of_mem_counterVariable isIn

theorem toList_groupEntry_append (g : TileGroup) (behind : String) :
    (groupEntry g ++ behind).toList = (tileStart g.tile).toList
      ++ '[' :: ([',', ' '].intercalate (memberNames g) ++ ']' :: ("\x7d" ++ behind).toList) := by
  rw [groupEntry_eq]
  simp only [String.append_assoc, String.toList_append, String.toList_intercalate, List.map_map]
  rfl

/-- **The entry of a tile** lists the variables of its counters under the tile, whether there is a
comma behind it or not. -/
theorem listedIn_groupEntry {g : TileGroup} (nonempty : g.members ≠ []) (behind : String) :
    listedIn (groupEntry g ++ behind)
      = g.members.map fun i => (tileStart g.tile, counterVariable i) := by
  have entry := toList_groupEntry_append g behind
  have under : listedUnder (groupEntry g ++ behind) = tileStart g.tile := by
    rw [listedUnder, entry, takeWhile_ne_append (bracket_notMem_tileStart g.tile),
      String.ofList_toList]
  have names : listedNames (groupEntry g ++ behind) = (memberNames g).map String.ofList := by
    have trimmed := congrArg (List.map String.ofList) (map_trim_splitOn_memberNames nonempty)
    rw [List.map_map] at trimmed
    rw [listedNames, entry]
    simp only [drop_dropWhile_ne_append (bracket_notMem_tileStart g.tile),
      takeWhile_ne_append (bracket_notMem_memberNames g)]
    exact trimmed
  rw [listedIn, under, names, memberNames, List.map_map, List.map_map]
  refine List.map_congr_left ?_
  intro i _
  exact congrArg (Prod.mk _) String.ofList_toList

/-- A comma behind an item does not matter to what does not look at it. -/
theorem flatMap_itemLines {β : Type} {f : String → List β} {items : List String}
    (h : ∀ item ∈ items, f (item ++ ",") = f item) :
    (itemLines items).flatMap f = items.flatMap f := by
  induction items with
  | nil => rfl
  | cons first items ih =>
    obtain ⟨comma, rest⟩ := List.forall_mem_cons.1 h
    cases items with
    | nil => rfl
    | cons second items =>
      have behind := ih rest
      have lines : itemLines (first :: second :: items)
          = (first ++ ",") :: itemLines (second :: items) := rfl
      rw [lines, List.flatMap_cons, comma, behind]
      rfl

theorem variablesRead_probeLines (b : Block) : variablesRead (probeLines b)
    = (List.range b.counters.length).map counterVariable := by
  rw [variablesRead, filter_isReadLine_probeLines, map_variableRead_readLines]

/-- What a probe lists is what there is to say of the groups of its counters. -/
theorem listed_probeLines (b : Block) : listed (probeLines b) = b.groups.flatMap fun g =>
    g.members.map fun i => (tileStart g.tile, counterVariable i) := by
  have nonempty := (TileGroup.isGrouping_ofTiles (b.counters.map Descriptor.tile)).nonempty
  have bare : ∀ g ∈ b.groups, listedIn (groupEntry g)
      = g.members.map fun i => (tileStart g.tile, counterVariable i) := by
    intro g mem
    have entry := listedIn_groupEntry (nonempty g mem) ""
    rwa [String.append_empty] at entry
  have comma : ∀ entry ∈ b.groups.map groupEntry, listedIn (entry ++ ",") = listedIn entry := by
    rw [List.forall_mem_map]
    intro g mem
    rw [listedIn_groupEntry (nonempty g mem), bare g mem]
  rw [listed, filter_isObjectLine_probeLines, flatMap_itemLines comma, List.flatMap_map]
  exact List.flatMap_congr bare

/-- The variables of counters under their tiles. -/
theorem zip_variables (counters : List Descriptor) :
    (counters.map fun d => tileStart d.tile).zip
        ((List.range counters.length).map counterVariable)
      = (counters.map Descriptor.tile).zipIdx.map
          fun c => (tileStart c.1, counterVariable c.2) := by
  rw [List.zipIdx_eq_zip_range', List.length_map, ← List.range_eq_range', List.zip_map,
    List.zip_map_left, List.map_map]
  rfl

/-- **The lines of a probe** list each variable once. -/
theorem listsEachOnce_probeLines (b : Block) : ListsEachOnce b (probeLines b) where
  reads := variablesRead_probeLines b
  distinct := by
    rw [variablesRead_probeLines]
    apply List.nodup_range.map
    intro i j same
    exact counterVariable_inj (congrArg String.toList same)
  lists := by
    have listing := (TileGroup.flatMap_ofTiles_perm (b.counters.map Descriptor.tile)).map
      fun c => (tileStart c.1, counterVariable c.2)
    simp only [List.map_flatMap, List.map_map] at listing
    rw [variablesRead_probeLines, zip_variables, listed_probeLines]
    exact listing

end Script

namespace TileGroup

/-- **Counters are grouped by tile** in the one way there is: every counter in exactly one group,
that of its tile, and groups and counters in the order in which they first come up.  So a probe
lists each variable that it reads once, under the tile of its counter, and no other name. -/
theorem ofTiles_canonical :
    (∀ (counters : List Descriptor) (groups : List TileGroup),
      IsGrouping (counters.map Descriptor.tile) groups ↔
        ofTiles (counters.map Descriptor.tile) = groups) ∧
    ∀ b : Block, Script.ListsEachOnce b (Script.probeLines b) :=
  ⟨fun _ _ => isGrouping_iff, Script.listsEachOnce_probeLines⟩

end TileGroup

end CounterTrace
