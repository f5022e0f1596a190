/-!
# Tiles

A tile is known by its place in the array.
-/

namespace CounterTrace

/-- The place of a tile in the array; columns and rows are counted from zero. -/
structure Tile where
  column : UInt8
  row : UInt8
deriving DecidableEq, Repr, Inhabited

end CounterTrace
