import CounterTrace.Table
import CounterTrace.Tile

/-!
# Metric sets of tiles

Several settings may name a metric set for one tile.  The first name that is not empty
stays; an empty name says nothing.  A later name that differs is ignored, and that is a
conflict worth a warning.
-/

namespace CounterTrace

/-- A metric set named for a tile. -/
structure TileMetric where
  tile : Tile
  name : String
deriving DecidableEq, Repr

/-- Two names for one tile. -/
structure MetricConflict where
  tile : Tile
  /-- The name that stays. -/
  kept : String
  /-- The name that has no effect. -/
  ignored : String
deriving DecidableEq, Repr

/-- The metric set of each tile that has one. -/
structure MetricSets where
  table : Table Tile String

namespace MetricSets

/-- No tile has a metric set. -/
def empty : MetricSets :=
  ⟨.empty⟩

instance : Inhabited MetricSets := ⟨empty⟩

/-- The metric set of a tile. -/
def lookup (sets : MetricSets) (tile : Tile) : Option String :=
  sets.table.get? tile

/-- How many tiles have a metric set. -/
def size (sets : MetricSets) : Nat :=
  sets.table.size

/-- Whether no tile has a metric set. -/
def isEmpty (sets : MetricSets) : Bool :=
  sets.table.isEmpty

/-- Whether naming a metric set has an effect: the name says something, and it is the first
for its tile. -/
def stores (sets : MetricSets) (m : TileMetric) : Bool :=
  m.name ≠ "" && (sets.lookup m.tile).isNone

/-- The metric sets with one more name. -/
def insert (sets : MetricSets) (m : TileMetric) : MetricSets :=
  if sets.stores m then ⟨sets.table.insert m.tile m.name⟩ else sets

/-- The conflict of a name with the one that its tile has. -/
def conflict? (sets : MetricSets) (m : TileMetric) : Option MetricConflict :=
  match sets.lookup m.tile with
  | none => none
  | some kept =>
    if m.name = "" ∨ m.name = kept then none else some ⟨m.tile, kept, m.name⟩

/-- The metric sets with more names, given in order. -/
def insertAll (sets : MetricSets) (ms : List TileMetric) : MetricSets :=
  ms.foldl insert sets

/-- The conflicts that come up while names are given in order. -/
def conflicts (sets : MetricSets) : List TileMetric → List MetricConflict
  | [] => []
  | m :: ms => (sets.conflict? m).toList ++ (sets.insert m).conflicts ms

/-- The metric sets that several modules name, one module after the other. -/
def ofModules (modules : List (List TileMetric)) : MetricSets :=
  modules.foldl insertAll empty

/-- The conflicts that come up while one module after the other names its metric sets. -/
def conflictsOf (sets : MetricSets) : List (List TileMetric) → List MetricConflict
  | [] => []
  | ms :: modules => sets.conflicts ms ++ (sets.insertAll ms).conflictsOf modules

@[simp] theorem lookup_empty (tile : Tile) : empty.lookup tile = none := rfl

/-- A name is found from when it is stored. -/
theorem lookup_insert (sets : MetricSets) (m : TileMetric) (tile : Tile) :
    (sets.insert m).lookup tile =
      if tile = m.tile ∧ sets.stores m = true then some m.name else sets.lookup tile := by
  unfold insert
  by_cases h : sets.stores m = true <;> simp [h, lookup]

end MetricSets

end CounterTrace
