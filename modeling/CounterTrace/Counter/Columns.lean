import CounterTrace.Counter.Descriptor
import CounterTrace.Program.Record

/-!
# Counters by column

The counters that a control program samples are those in the columns it owns.
-/

namespace CounterTrace

/-- The columns from a first to a last one, both included. -/
structure ColumnRange where
  first : Nat
  last : Nat
deriving DecidableEq, Repr

namespace ColumnRange

/-- Whether a column is in the range. -/
def contains (range : ColumnRange) (column : UInt8) : Bool :=
  decide (range.first ≤ column.toNat ∧ column.toNat ≤ range.last)

/-- The counters whose column is in the range, in the order given. -/
def select (range : ColumnRange) (counters : List Descriptor) : List Descriptor :=
  counters.filter fun c => range.contains c.tile.column

end ColumnRange

/-- The columns whose counters are sampled. -/
def Instrumentation.columns (i : Instrumentation) : ColumnRange :=
  ⟨i.firstColumn.toNat, i.lastColumn.toNat⟩

/-- A program owns the columns whose quotient by four is its number. -/
theorem Record.contains_columns (r : Record) (column : UInt8) :
    r.instrumentation.columns.contains column
      = decide (column.toNat / columnsPerProgram = r.id.val) := by
  rw [ColumnRange.contains, Instrumentation.columns, r.isOf_instrumentation.firstColumn,
    r.isOf_instrumentation.lastColumn]
  exact decide_eq_decide.2 (r.id.mem_columns_iff column.toNat)

end CounterTrace
