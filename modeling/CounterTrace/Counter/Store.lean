import CounterTrace.Table
import CounterTrace.Tile

/-!
# Configured counters

A counter store holds the counters configured for each device, in the order in which they
were configured.  Whoever reads counters sees one device at a time: a number of counters,
and a counter at an index, which may be missing.
-/

namespace CounterTrace

/-- A counter as it is configured. -/
structure Counter where
  tile : Tile
  number : UInt8
  moduleName : String
  /-- What the counter counts.  Bit 8 marks the master of a stream where bandwidth is
  counted. -/
  payload : UInt64 := 0
deriving DecidableEq, Repr

/-- What one device shows of its counters. -/
structure DeviceCounters where
  /-- How many counters the device has. -/
  count : Nat
  /-- The counter at an index, if it is there. -/
  counter? : Nat → Option Counter

/-- The counters that are there, in the order of their indices. -/
def DeviceCounters.toList (d : DeviceCounters) : List Counter :=
  (List.range d.count).filterMap d.counter?

/-- The counters of some devices. -/
structure CounterStore where
  /-- The counters of each device that has any. -/
  devices : Table UInt64 (List Counter)

namespace CounterStore

/-- The store without counters. -/
def empty : CounterStore :=
  ⟨.empty⟩

instance : Inhabited CounterStore := ⟨empty⟩

/-- The counters of a device. -/
def counters (s : CounterStore) (device : UInt64) : List Counter :=
  (s.devices.get? device).getD []

/-- The store with one more counter for a device. -/
def push (s : CounterStore) (device : UInt64) (counter : Counter) : CounterStore :=
  ⟨s.devices.insert device (s.counters device ++ [counter])⟩

/-- What a device shows of its counters. -/
def onDevice (s : CounterStore) (device : UInt64) : DeviceCounters where
  count := (s.counters device).length
  counter? index := (s.counters device)[index]?

@[simp] theorem counters_empty (device : UInt64) : empty.counters device = [] := rfl

/-- A counter goes to the end of its device's counters, and changes no other device. -/
@[simp] theorem counters_push (s : CounterStore) (d d' : UInt64) (counter : Counter) :
    (s.push d counter).counters d' =
      if d' = d then s.counters d' ++ [counter] else s.counters d' := by
  unfold push counters
  rw [Table.get?_insert]
  split
  · rename_i h
    subst h
    rfl
  · rfl

theorem filterMap_range_getElem? {α : Type} (l : List α) :
    (List.range l.length).filterMap (fun i => l[i]?) = l := by
  induction l with
  | nil => rfl
  | cons a l ih =>
    rw [List.length_cons, List.range_succ_eq_map, List.filterMap_cons, List.filterMap_map]
    exact congrArg (a :: ·) ih

/-- No counter of a store is missing. -/
@[simp] theorem toList_onDevice (s : CounterStore) (device : UInt64) :
    (s.onDevice device).toList = s.counters device :=
  filterMap_range_getElem? _

end CounterStore

end CounterTrace
