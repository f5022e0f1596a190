import CounterTrace.Session.Run
import Mathlib.Data.Finset.Card

/-!
# First names win

Metric sets are named for tiles in any order, some of the names empty.  What comes of it can be said
of the names alone: a tile has the first name that was given to it and is not empty, and from then
on every name that says something else is a conflict.

One name more is looked at first (`lookup_insert_eq_or`, `conflict?_insertAll`), and a whole list of
names from that by induction.
-/

namespace CounterTrace

/-- A table has as many keys as there are that have a value. -/
theorem Table.size_eq_card {κ ν : Type} [DecidableEq κ] {t : Table κ ν} {keys : Finset κ}
    (h : ∀ k, k ∈ keys ↔ (t.get? k).isSome = true) : t.size = keys.card := by
  have same : (t.entries.map Prod.fst).toFinset = keys := by
    ext k
    rw [List.mem_toFinset, List.mem_map, h, Option.isSome_iff_exists]
    constructor
    · rintro ⟨⟨k, v⟩, mem, rfl⟩
      exact ⟨v, get?_eq_some_iff.2 mem⟩
    · rintro ⟨v, found⟩
      exact ⟨(k, v), get?_eq_some_iff.1 found, rfl⟩
  rw [← same, List.toFinset_card_of_nodup t.nodup, List.length_map]
  rfl

namespace MetricSets

variable {sets : MetricSets} {m : TileMetric} {ms : List TileMetric} {tile : Tile}

/-- The first name given to a tile that is not empty. -/
def firstName (ms : List TileMetric) (tile : Tile) : Option String :=
  (ms.find? fun m => m.tile = tile ∧ m.name ≠ "").map TileMetric.name

/-- The tiles to which a name is given that is not empty. -/
def namedTiles (ms : List TileMetric) : Finset Tile :=
  ((ms.filter fun m => m.name ≠ "").map TileMetric.tile).toFinset

@[simp] theorem firstName_nil (tile : Tile) : firstName [] tile = none := rfl

theorem firstName_append (ms ms' : List TileMetric) (tile : Tile) :
    firstName (ms ++ ms') tile = (firstName ms tile).or (firstName ms' tile) := by
  rw [firstName, List.find?_append, Option.map_or]
  rfl

theorem firstName_cons (m : TileMetric) (ms : List TileMetric) (tile : Tile) :
    firstName (m :: ms) tile = (firstName [m] tile).or (firstName ms tile) :=
  firstName_append [m] ms tile

theorem firstName_singleton (m : TileMetric) (tile : Tile) :
    firstName [m] tile = if m.tile = tile ∧ m.name ≠ "" then some m.name else none := by
  by_cases h : m.tile = tile ∧ m.name ≠ "" <;> simp [firstName, h]

/-- A tile has no name as long as all names that it is given are empty. -/
theorem firstName_eq_none_iff :
    firstName ms tile = none ↔ ∀ m ∈ ms, m.tile = tile → m.name = "" := by
  simp [firstName]

theorem mem_namedTiles : tile ∈ namedTiles ms ↔ (firstName ms tile).isSome = true := by
  rw [namedTiles, List.mem_toFinset, List.mem_map, firstName, Option.isSome_map, List.find?_isSome]
  apply exists_congr
  intro m
  simp only [List.mem_filter, decide_eq_true_eq]
  tauto

/-- The conflict of a name with the one that its tile has: both say something, but not the same. -/
def conflictWith : Option String → TileMetric → Option MetricConflict
  | none, _ => none
  | some kept, m => if m.name ≠ "" ∧ m.name ≠ kept then some ⟨m.tile, kept, m.name⟩ else none

/-- An empty name is in conflict with nothing, and no name is with itself. -/
theorem conflictWith_some_eq_none {kept : String} (h : m.name = "" ∨ m.name = kept) :
    conflictWith (some kept) m = none := by
  apply if_neg
  rintro ⟨notEmpty, differs⟩
  exact h.elim notEmpty differs

theorem conflict?_eq (sets : MetricSets) (m : TileMetric) :
    sets.conflict? m = conflictWith (sets.lookup m.tile) m := by
  unfold conflict?
  cases sets.lookup m.tile with
  | none => rfl
  | some kept =>
    by_cases quiet : m.name = "" ∨ m.name = kept
    · rw [conflictWith_some_eq_none quiet]
      exact if_pos quiet
    · rw [conflictWith, if_pos (not_or.1 quiet)]
      exact if_neg quiet

theorem conflictWith_of_empty (h : m.name = "") (kept : Option String) :
    conflictWith kept m = none := by
  cases kept with
  | none => rfl
  | some kept => exact conflictWith_some_eq_none (.inl h)

/-- A name has an effect when it says something and its tile has none. -/
theorem stores_iff : sets.stores m = true ↔ m.name ≠ "" ∧ sets.lookup m.tile = none := by
  simp [stores]

/-- One name more is of use to a tile that has none. -/
theorem lookup_insert_eq_or (sets : MetricSets) (m : TileMetric) (tile : Tile) :
    (sets.insert m).lookup tile = (sets.lookup tile).or (firstName [m] tile) := by
  rw [lookup_insert, firstName_singleton]
  by_cases same : m.tile = tile
  · subst same
    cases found : sets.lookup m.tile with
    | none => simp [stores_iff, found]
    | some name => simp [stores_iff, found]
  · simp [same, Ne.symm same]

@[simp] theorem insertAll_nil (sets : MetricSets) : sets.insertAll [] = sets := rfl

@[simp] theorem insertAll_cons (sets : MetricSets) (m : TileMetric) (ms : List TileMetric) :
    sets.insertAll (m :: ms) = (sets.insert m).insertAll ms := rfl

theorem insertAll_append (sets : MetricSets) (ms ms' : List TileMetric) :
    sets.insertAll (ms ++ ms') = (sets.insertAll ms).insertAll ms' :=
  List.foldl_append

/-- **A tile keeps the name it has**, or it has the first one that it is given. -/
theorem lookup_insertAll (sets : MetricSets) (ms : List TileMetric) (tile : Tile) :
    (sets.insertAll ms).lookup tile = (sets.lookup tile).or (firstName ms tile) := by
  induction ms generalizing sets with
  | nil => rw [insertAll_nil, firstName_nil, Option.or_none]
  | cons m ms ih =>
    rw [insertAll_cons, ih, lookup_insert_eq_or, firstName_cons m ms, Option.or_assoc]

theorem lookup_insertAll_empty (ms : List TileMetric) (tile : Tile) :
    (empty.insertAll ms).lookup tile = firstName ms tile := by
  rw [lookup_insertAll, lookup_empty, Option.none_or]

/-- Whether a name is in conflict can still be told when all names are given: what is first by then
was first before, or it is the name itself. -/
theorem conflict?_insertAll (sets : MetricSets) (m : TileMetric) (ms : List TileMetric) :
    (sets.insertAll (m :: ms)).conflict? m = sets.conflict? m := by
  rw [conflict?_eq, conflict?_eq, lookup_insertAll]
  cases sets.lookup m.tile with
  | some kept => rfl
  | none =>
    rw [Option.none_or]
    by_cases isEmpty : m.name = ""
    · exact conflictWith_of_empty isEmpty _
    · rw [firstName_cons, firstName_singleton, if_pos ⟨rfl, isEmpty⟩, Option.some_or]
      exact conflictWith_some_eq_none (.inr rfl)

/-- **The conflicts** are those of the names with what their tiles have in the end. -/
theorem conflicts_eq (sets : MetricSets) (ms : List TileMetric) :
    sets.conflicts ms = ms.filterMap (sets.insertAll ms).conflict? := by
  induction ms generalizing sets with
  | nil => rfl
  | cons m ms ih =>
    rw [conflicts, ih, List.filterMap_cons, conflict?_insertAll, insertAll_cons]
    cases sets.conflict? m <;> rfl

theorem conflict?_insertAll_empty (ms : List TileMetric) (m : TileMetric) :
    (empty.insertAll ms).conflict? m = conflictWith (firstName ms m.tile) m := by
  rw [conflict?_eq, lookup_insertAll_empty]

theorem conflicts_append (sets : MetricSets) (ms ms' : List TileMetric) :
    sets.conflicts (ms ++ ms') = sets.conflicts ms ++ (sets.insertAll ms).conflicts ms' := by
  induction ms generalizing sets with
  | nil => rfl
  | cons m ms ih => rw [List.cons_append, conflicts, conflicts, ih, List.append_assoc]; rfl

/-- The modules are in order one list of names. -/
theorem ofModules_eq (modules : List (List TileMetric)) :
    ofModules modules = empty.insertAll modules.flatten :=
  List.foldl_flatten.symm

theorem conflictsOf_eq (sets : MetricSets) (modules : List (List TileMetric)) :
    sets.conflictsOf modules = sets.conflicts modules.flatten := by
  induction modules generalizing sets with
  | nil => rfl
  | cons ms modules ih => rw [conflictsOf, ih, List.flatten_cons, conflicts_append]

/-- **First names win** among some names, given in order from the start: what each tile has in the
end, on how many tiles there is something, which of the names had an effect, which were in conflict,
and that a tile keeps what it has. -/
structure FirstNamesWin (ms : List TileMetric) : Prop where
  lookup : ∀ tile, (empty.insertAll ms).lookup tile = firstName ms tile
  size : (empty.insertAll ms).size = (namedTiles ms).card
  stores : ∀ (k : Nat) (h : k < ms.length), (empty.insertAll (ms.take k)).stores ms[k] = true ↔
    ms[k].name ≠ "" ∧ ∀ m ∈ ms.take k, m.tile = ms[k].tile → m.name = ""
  conflict : ∀ (k : Nat) (h : k < ms.length),
    (empty.insertAll (ms.take k)).conflict? ms[k] = conflictWith (firstName ms ms[k].tile) ms[k]
  conflicts : empty.conflicts ms = ms.filterMap fun m => conflictWith (firstName ms m.tile) m
  stays : ∀ (later : List TileMetric) (tile : Tile) (name : String),
    (empty.insertAll ms).lookup tile = some name →
      (empty.insertAll (ms ++ later)).lookup tile = some name

theorem firstNamesWin (ms : List TileMetric) : FirstNamesWin ms where
  lookup tile := lookup_insertAll_empty ms tile
  size := by
    apply Table.size_eq_card
    intro tile
    rw [mem_namedTiles, ← lookup_insertAll_empty]
    rfl
  stores k h := by
    rw [stores_iff, lookup_insertAll_empty, firstName_eq_none_iff]
  conflict k h := by
    have run : empty.insertAll ms
        = (empty.insertAll (ms.take k)).insertAll (ms[k] :: ms.drop (k + 1)) := by
      rw [← insertAll_append, ← List.drop_eq_getElem_cons h, List.take_append_drop]
    rw [← conflict?_insertAll_empty, run, conflict?_insertAll]
  conflicts := by
    rw [conflicts_eq]
    apply List.filterMap_congr
    intro m _
    exact conflict?_insertAll_empty ms m
  stays later tile name h := by
    rw [insertAll_append, lookup_insertAll, h, Option.some_or]

/-- **First names win**, whatever names are given, and it does not matter how they are divided among
modules. -/
theorem insertAll_firstNamesWin :
    (∀ ms : List TileMetric, FirstNamesWin ms) ∧
    ∀ modules : List (List TileMetric),
      ofModules modules = empty.insertAll modules.flatten ∧
        empty.conflictsOf modules = empty.conflicts modules.flatten :=
  ⟨firstNamesWin, fun modules => ⟨ofModules_eq modules, conflictsOf_eq empty modules⟩⟩

end MetricSets

namespace Session

/-- Naming metric sets is what the steps of a session do, and they change nothing else. -/
theorem run_nameMetricSet (s : Session) (ms : List TileMetric) :
    (s.run (ms.map .nameMetricSet)).2.1
      = { s with metricSets := s.metricSets.insertAll ms } := by
  induction ms generalizing s with
  | nil => rfl
  | cons m ms ih => exact ih { s with metricSets := s.metricSets.insert m }

/-- The steps tell of the conflicts. -/
theorem warnings_nameMetricSet (s : Session) (ms : List TileMetric) :
    (s.run (ms.map .nameMetricSet)).2.2 = (s.metricSets.conflicts ms).map .metricConflict := by
  induction ms generalizing s with
  | nil => rfl
  | cons m ms ih =>
    have later := ih { s with metricSets := s.metricSets.insert m }
    calc (s.run ((m :: ms).map .nameMetricSet)).2.2
        = (s.metricSets.conflict? m).toList.map .metricConflict
          ++ (({ s with metricSets := s.metricSets.insert m } : Session).run
            (ms.map .nameMetricSet)).2.2 := rfl
      _ = (s.metricSets.conflict? m).toList.map .metricConflict
          ++ ((s.metricSets.insert m).conflicts ms).map .metricConflict := by rw [later]
      _ = (s.metricSets.conflicts (m :: ms)).map .metricConflict := List.map_append.symm

/-- Each step answers whether its name had an effect. -/
theorem answer_nameMetricSet (s : Session) (ms : List TileMetric) (k : Nat) (h : k < ms.length) :
    (s.run (ms.map .nameMetricSet)).1[k]?
      = some (.stored ((s.metricSets.insertAll (ms.take k)).stores ms[k])
        (s.metricSets.insertAll (ms.take (k + 1))).size) := by
  induction ms generalizing s k with
  | nil => exact absurd h (Nat.not_lt_zero k)
  | cons m ms ih =>
    cases k with
    | zero => rfl
    | succ k =>
      exact ih { s with metricSets := s.metricSets.insert m } k (Nat.lt_of_succ_lt_succ h)

end Session

end CounterTrace
