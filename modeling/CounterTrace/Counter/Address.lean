import CounterTrace.Counter.Module
import CounterTrace.Text.Hexadecimal
import CounterTrace.Tile

/-!
# Register addresses

The address of a tile has its column and its row at bit positions that depend on the chip.
A counter register lies at its module's offset in the tile, four bytes a counter.  Shifts
of at most 56 keep a coordinate of eight bits within the 64 bits of an address.
-/

namespace CounterTrace

/-- The two coordinates of a tile. -/
inductive Axis where
  | column
  | row
deriving DecidableEq, Repr

/-- The name of a coordinate. -/
def Axis.name : Axis → String
  | .column => "column"
  | .row => "row"

/-- A shift that would move bits of a coordinate out of an address. -/
structure ShiftFault where
  axis : Axis
  shift : UInt8
deriving DecidableEq, Repr

/-- The wording of a shift fault. -/
def ShiftFault.message (fault : ShiftFault) : String :=
  fault.axis.name ++ " shift " ++ toString fault.shift.toNat
    ++ " pushes an 8-bit coordinate past bit 63"

/-- The largest shift that keeps a coordinate of eight bits within 64 bits. -/
def maxShift : UInt8 := 56

/-- Where a chip has column and row in the address of a tile. -/
structure ChipShifts where
  column : UInt8
  row : UInt8
  /-- The column stays within the address. -/
  column_le : column ≤ maxShift
  /-- The row stays within the address. -/
  row_le : row ≤ maxShift
deriving DecidableEq, Repr

/-- The distance in bytes from one counter to the next. -/
def counterStride : UInt64 := 4

namespace ChipShifts

/-- The shifts of AIE2PS devices. -/
def aie2ps : ChipShifts :=
  ⟨25, 20, by decide, by decide⟩

instance : Inhabited ChipShifts := ⟨aie2ps⟩

/-- The shifts of the given amounts.  Of two bad amounts the column's is reported. -/
def ofAmounts (column row : UInt8) : Except ShiftFault ChipShifts :=
  if column_le : column ≤ maxShift then
    if row_le : row ≤ maxShift then .ok ⟨column, row, column_le, row_le⟩
    else .error ⟨.row, row⟩
  else .error ⟨.column, column⟩

/-- The first address of a tile. -/
def tileAddress (s : ChipShifts) (tile : Tile) : UInt64 :=
  (tile.column.toUInt64 <<< s.column.toUInt64) ||| (tile.row.toUInt64 <<< s.row.toUInt64)

/-- The address of a counter. -/
def counterAddress (s : ChipShifts) (tile : Tile) (kind : CounterModule) (number : UInt8) :
    UInt64 :=
  s.tileAddress tile + kind.baseOffset + number.toUInt64 * counterStride

/-- A word shifted by less than its width. -/
def checkedShift (a : UInt64) (amount : UInt8) : Option UInt64 :=
  if amount.toNat < 64 then some (a <<< amount.toUInt64) else none

/-- A sum that is a word again. -/
def checkedAdd (a b : UInt64) : Option UInt64 :=
  if a.toNat + b.toNat < UInt64.size then some (a + b) else none

/-- A product that is a word again. -/
def checkedMul (a b : UInt64) : Option UInt64 :=
  if a.toNat * b.toNat < UInt64.size then some (a * b) else none

/-- The address of a counter, if no operation on the way to it goes beyond 64 bits. -/
def counterAddress? (s : ChipShifts) (tile : Tile) (kind : CounterModule) (number : UInt8) :
    Option UInt64 := do
  let column ← checkedShift tile.column.toUInt64 s.column
  let row ← checkedShift tile.row.toUInt64 s.row
  let base ← checkedAdd (column ||| row) kind.baseOffset
  let offset ← checkedMul number.toUInt64 counterStride
  checkedAdd base offset

/-- Both amounts are kept. -/
theorem ofAmounts_eq_ok_iff {column row : UInt8} {s : ChipShifts} :
    ofAmounts column row = .ok s ↔ s.column = column ∧ s.row = row := by
  obtain ⟨c, r, hc, hr⟩ := s
  unfold ofAmounts
  constructor
  · split
    · split
      · intro h
        simp only [Except.ok.injEq, ChipShifts.mk.injEq] at h
        exact ⟨h.1.symm, h.2.symm⟩
      · simp
    · simp
  · rintro ⟨rfl, rfl⟩
    rw [dif_pos hc, dif_pos hr]

/-- Which shifts are refused, and how. -/
theorem ofAmounts_eq_error_iff {column row : UInt8} {fault : ShiftFault} :
    ofAmounts column row = .error fault ↔
      56 < column ∧ fault = ⟨.column, column⟩ ∨
      column ≤ 56 ∧ 56 < row ∧ fault = ⟨.row, row⟩ := by
  have limit : maxShift = 56 := rfl
  simp only [ofAmounts, limit, ← UInt8.not_le]
  by_cases column_le : column ≤ 56
  · by_cases row_le : row ≤ 56 <;> simp [column_le, row_le, @eq_comm _ _ fault]
  · simp [column_le, @eq_comm _ _ fault]

end ChipShifts

/-- The least number of digits of an address in text. -/
def addressDigits : Nat := 10

/-- An address as text: in hexadecimal, with at least ten digits. -/
def formatAddress (address : UInt64) : String :=
  "0x" ++ String.ofList (Text.paddedHex addressDigits address.toNat)

/-- Short addresses are filled up with zeros, long ones are written in full. -/
example : formatAddress 0x37520 = "0x0000037520"
    ∧ formatAddress 0x102000003752c = "0x102000003752c" := by
  decide

end CounterTrace
