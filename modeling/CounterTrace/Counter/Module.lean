/-!
# The modules that hold counters

A tile has its counters in a module, and each kind of module has its counter registers at
a place of its own in the tile's address space.
-/

namespace CounterTrace

/-- The kinds of module that hold counters. -/
inductive CounterModule where
  /-- The core of a compute tile. -/
  | core
  /-- The memory of a compute tile. -/
  | memory
  /-- A memory tile. -/
  | memoryTile
  /-- A tile at the edge of the array. -/
  | interfaceTile
deriving DecidableEq, Repr, Inhabited

namespace CounterModule

/-- The kinds, in the order in which they are searched. -/
def all : List CounterModule :=
  [core, memory, memoryTile, interfaceTile]

/-- The name of a kind in a configuration. -/
def name : CounterModule → String
  | core => "aie"
  | memory => "aie_memory"
  | memoryTile => "memory_tile"
  | interfaceTile => "interface_tile"

/-- Where counter 0 of the module is, from the tile's first address. -/
def baseOffset : CounterModule → UInt64
  | core => 0x37520
  | memory => 0x11020
  | memoryTile => 0x91020
  | interfaceTile => 0x31020

/-- The kind of the given name. -/
def ofName? (name : String) : Option CounterModule :=
  all.find? fun kind => kind.name = name

/-- The kind of the given name, where the core stands in for names that are not known.
Addresses are then still the same from run to run, but perhaps not those that were meant. -/
def ofName (name : String) : CounterModule :=
  (ofName? name).getD core

/-- The place of a kind in the order of all kinds. -/
def rank : CounterModule → Nat
  | core => 0
  | memory => 1
  | memoryTile => 2
  | interfaceTile => 3

/-- The rank is the place in the list of all kinds. -/
theorem getElem?_rank (kind : CounterModule) : all[kind.rank]? = some kind := by
  cases kind <;> rfl

end CounterModule

end CounterTrace
