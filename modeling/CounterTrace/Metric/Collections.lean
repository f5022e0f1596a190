import CounterTrace.Counter.Module
import CounterTrace.Metric.Sets
import CounterTrace.StableSort

/-!
# Metric collections

A setting of the configuration names metric sets for tiles, for one kind of module.  Such a
collection is kept under the module and the setting; a later one under the same key takes
its place.  The collections together name metric sets in a fixed order: by module, then by
the bytes of the setting's name.
-/

namespace CounterTrace

/-- What a collection is kept under. -/
structure CollectionKey where
  kind : CounterModule
  setting : String
deriving DecidableEq, Repr

namespace CollectionKey

/-- The bytes of a setting's name. -/
def bytes (key : CollectionKey) : List UInt8 :=
  key.setting.toUTF8.data.toList

/-- The fixed order of keys: by the rank of the module, then by the bytes of the setting. -/
def le (a b : CollectionKey) : Bool :=
  decide (a.kind.rank < b.kind.rank ∨ a.kind.rank = b.kind.rank ∧ a.bytes ≤ b.bytes)

/-- The order of keys has no cycles. -/
theorem le_trans {a b c : CollectionKey} (hab : a.le b = true) (hbc : b.le c = true) :
    a.le c = true := by
  simp only [le, decide_eq_true_eq] at *
  rcases hab with hab | ⟨hab, hab'⟩
  · omega
  · rcases hbc with hbc | ⟨hbc, hbc'⟩
    · omega
    · exact .inr ⟨hab.trans hbc, List.le_trans hab' hbc'⟩

/-- Any two keys are ordered. -/
theorem le_total (a b : CollectionKey) : a.le b = true ∨ b.le a = true := by
  simp only [le, decide_eq_true_eq]
  rcases Nat.lt_trichotomy a.kind.rank b.kind.rank with h | h | h
  · exact .inl (.inl h)
  · rcases List.le_total a.bytes b.bytes with h' | h'
    · exact .inl (.inr ⟨h, h'⟩)
    · exact .inr (.inr ⟨h.symm, h'⟩)
  · exact .inr (.inl h)

end CollectionKey

/-- The metric collections of a configuration. -/
structure MetricCollections where
  table : Table CollectionKey (List TileMetric)

namespace MetricCollections

/-- No collections. -/
def empty : MetricCollections :=
  ⟨.empty⟩

instance : Inhabited MetricCollections := ⟨empty⟩

/-- Adds a collection, or replaces the one under the key. -/
def insert (c : MetricCollections) (key : CollectionKey) (metrics : List TileMetric) :
    MetricCollections :=
  ⟨c.table.insert key metrics⟩

/-- The collection under a key. -/
def get? (c : MetricCollections) (key : CollectionKey) : Option (List TileMetric) :=
  c.table.get? key

/-- How many collections there are. -/
def size (c : MetricCollections) : Nat :=
  c.table.size

/-- Whether there are none. -/
def isEmpty (c : MetricCollections) : Bool :=
  c.table.isEmpty

/-- The names of all collections, in the order of the keys. -/
def ordered (c : MetricCollections) : List TileMetric :=
  (sortBy (fun a b => a.1.le b.1) c.table.entries).flatMap Prod.snd

/-- The metric sets that the collections name together. -/
def metricSets (c : MetricCollections) : MetricSets :=
  MetricSets.empty.insertAll c.ordered

/-- The conflicts between the collections, and within each. -/
def conflicts (c : MetricCollections) : List MetricConflict :=
  MetricSets.empty.conflicts c.ordered

/-- The last collection under a key is the one that counts. -/
@[simp] theorem get?_insert (c : MetricCollections) (key key' : CollectionKey)
    (metrics : List TileMetric) :
    (c.insert key metrics).get? key' = if key' = key then some metrics else c.get? key' :=
  Table.get?_insert _ _ _ _

end MetricCollections

end CounterTrace
