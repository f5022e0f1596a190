import CounterTrace.Proofs.AddressRange
import CounterTrace.Proofs.Listing
import Mathlib.Data.Set.Function

/-!
# Registers are told apart

A counter register is known by its tile, the kind of its module and its number there.  The offset of
a register fills no place of an address from the twentieth on, and the registers of two kinds of
module lie in different parts of a tile.  So where tiles lie beyond the offsets, and the lower of
the two coordinates does not reach the places of the higher one, registers have addresses of their
own.  A probe then reads as many addresses as it has registers.
-/

namespace CounterTrace

section Fields

variable {hi lo hi' lo' off off' high low k q q' : Nat}

/-- A field below `2 ^ k` and what is above it are told apart. -/
theorem two_pow_mul_add_inj (hlo : lo < 2 ^ k) (hlo' : lo' < 2 ^ k)
    (h : 2 ^ k * q + lo = 2 ^ k * q' + lo') : q = q' ∧ lo = lo' := by
  have quotient (q : Nat) {lo : Nat} (hlo : lo < 2 ^ k) : (2 ^ k * q + lo) / 2 ^ k = q := by
    rw [Nat.mul_add_div (Nat.two_pow_pos k), Nat.div_eq_of_lt hlo, Nat.add_zero]
  have above : q = q' := by rw [← quotient q hlo, h, quotient q' hlo']
  subst above
  exact ⟨rfl, Nat.add_left_cancel h⟩

/-- Two fields of which the lower does not reach the higher one are a sum. -/
theorem packed_eq (order : low ≤ high) (hlo : lo < 2 ^ (high - low)) :
    hi * 2 ^ high ||| lo * 2 ^ low = 2 ^ low * (2 ^ (high - low) * hi + lo) := by
  have width : hi * 2 ^ high = (2 ^ (high - low) * hi) <<< low := by
    rw [Nat.shiftLeft_eq, Nat.mul_right_comm, ← Nat.pow_add, Nat.sub_add_cancel order,
      Nat.mul_comm]
  rw [width, ← Nat.shiftLeft_eq lo low, ← Nat.shiftLeft_or_distrib,
    ← Nat.two_pow_add_eq_or_of_lt hlo, Nat.shiftLeft_eq, Nat.mul_comm]

/-- **Fields that do not reach each other** are told apart: two packed fields, and below both of
them an offset. -/
theorem packed_add_inj (floor : 20 ≤ low) (order : low ≤ high) (hlo : lo < 2 ^ (high - low))
    (hlo' : lo' < 2 ^ (high - low)) (hoff : off < 2 ^ 20) (hoff' : off' < 2 ^ 20)
    (h : (hi * 2 ^ high ||| lo * 2 ^ low) + off = (hi' * 2 ^ high ||| lo' * 2 ^ low) + off') :
    hi = hi' ∧ lo = lo' ∧ off = off' := by
  have reach : 2 ^ 20 ≤ 2 ^ low := Nat.pow_le_pow_right (by decide) floor
  rw [packed_eq order hlo, packed_eq order hlo'] at h
  obtain ⟨fields, offset⟩ := two_pow_mul_add_inj (by omega) (by omega) h
  obtain ⟨higher, lower⟩ := two_pow_mul_add_inj hlo hlo' fields
  exact ⟨higher, lower, offset⟩

end Fields

namespace CounterModule

/-- The registers of one kind of module lie apart from those of another. -/
theorem eq_of_near {kind kind' : CounterModule}
    (h : kind.baseOffset.toNat < kind'.baseOffset.toNat + 1024)
    (h' : kind'.baseOffset.toNat < kind.baseOffset.toNat + 1024) : kind = kind' := by
  revert h h'
  cases kind <;> cases kind' <;> decide

/-- **The registers of a tile** are told apart by their offsets. -/
theorem offset_inj {kind kind' : CounterModule} {number number' : UInt8}
    (h : kind.baseOffset.toNat + 4 * number.toNat = kind'.baseOffset.toNat + 4 * number'.toNat) :
    kind = kind' ∧ number = number' := by
  have bits := number.toNat_lt
  have bits' := number'.toNat_lt
  have same : kind = kind' := eq_of_near (by omega) (by omega)
  subst same
  exact ⟨rfl, UInt8.toNat_inj.1 (by omega)⟩

end CounterModule

/-- What a counter is read from. -/
structure Register where
  tile : Tile
  kind : CounterModule
  number : UInt8
deriving DecidableEq, Repr

theorem Register.eq_of_fields {r r' : Register}
    (column : r.tile.column.toNat = r'.tile.column.toNat)
    (row : r.tile.row.toNat = r'.tile.row.toNat)
    (offset : r.kind.baseOffset.toNat + 4 * r.number.toNat
      = r'.kind.baseOffset.toNat + 4 * r'.number.toNat) : r = r' := by
  obtain ⟨tile, kind, number⟩ := r
  obtain ⟨tile', kind', number'⟩ := r'
  obtain ⟨rfl, rfl⟩ := CounterModule.offset_inj offset
  rw [Register.mk.injEq]
  exact ⟨Tile.eq_of_toNat column row, rfl, rfl⟩

/-- The register of a counter that is described. -/
def Descriptor.register (d : Descriptor) : Register :=
  ⟨d.tile, d.kind, d.number⟩

namespace ChipShifts

variable (s : ChipShifts)

/-- The address of a register. -/
def registerAddress (r : Register) : UInt64 :=
  s.counterAddress r.tile r.kind r.number

/-- Equal addresses are equal as numbers. -/
theorem registerNumber_eq_of_registerAddress_eq {r r' : Register}
    (same : s.registerAddress r = s.registerAddress r') :
    s.tileNumber r.tile + (r.kind.baseOffset.toNat + 4 * r.number.toNat)
      = s.tileNumber r'.tile + (r'.kind.baseOffset.toNat + 4 * r'.number.toNat) := by
  have numbers := congrArg UInt64.toNat same
  rw [registerAddress, registerAddress, toNat_counterAddress, toNat_counterAddress,
    registerNumber, registerNumber, Nat.add_assoc, Nat.add_assoc] at numbers
  exact numbers

/-- Where columns lie beyond the rows. -/
theorem injOn_of_row_le (floor : 20 ≤ s.row) (order : s.row ≤ s.column) :
    Set.InjOn s.registerAddress
      {r | r.tile.row.toNat < 2 ^ (s.column.toNat - s.row.toNat)} := by
  intro r small r' small' same
  have numbers := s.registerNumber_eq_of_registerAddress_eq same
  obtain ⟨column, row, offset⟩ := packed_add_inj (UInt8.le_iff_toNat_le.1 floor)
    (UInt8.le_iff_toNat_le.1 order) small small' (r.kind.offset_lt r.number)
    (r'.kind.offset_lt r'.number) numbers
  exact Register.eq_of_fields column row offset

/-- Where rows lie beyond the columns. -/
theorem injOn_of_column_le (floor : 20 ≤ s.column) (order : s.column ≤ s.row) :
    Set.InjOn s.registerAddress
      {r | r.tile.column.toNat < 2 ^ (s.row.toNat - s.column.toNat)} := by
  intro r small r' small' same
  have numbers := s.registerNumber_eq_of_registerAddress_eq same
  rw [tileNumber, tileNumber, Nat.or_comm, Nat.or_comm (r'.tile.column.toNat * _)] at numbers
  obtain ⟨row, column, offset⟩ := packed_add_inj (UInt8.le_iff_toNat_le.1 floor)
    (UInt8.le_iff_toNat_le.1 order) small small' (r.kind.offset_lt r.number)
    (r'.kind.offset_lt r'.number) numbers
  exact Register.eq_of_fields column row offset

/-- There are five places for a row below the column. -/
theorem injOn_aie2ps : Set.InjOn aie2ps.registerAddress {r | r.tile.row < 32} := by
  have injective := aie2ps.injOn_of_row_le (by decide) (by decide)
  refine injective.mono ?_
  intro r small
  exact UInt8.lt_iff_toNat_lt.1 small

end ChipShifts

namespace Script

/-- The address that a line reads: what stands between its brackets. -/
def addressRead (line : String) : String :=
  let behind := (line.toList.dropWhile fun c => decide (c ≠ '(')).drop 1
  String.ofList (behind.takeWhile fun c => decide (c ≠ ')'))

/-- The addresses that are read. -/
def addressesRead (lines : List String) : List String :=
  (lines.filter isReadLine).map addressRead

theorem bracket_notMem_formatAddress (address : UInt64) : ')' ∉ (formatAddress address).toList := by
  intro mem
  rw [formatAddress, String.toList_append, List.mem_append] at mem
  rcases mem with inStart | inDigits
  · exact absurd inStart (by decide)
  · rw [String.toList_ofList] at inDigits
    obtain ⟨d, -, isDigit⟩ := Text.exists_digit_of_mem_paddedHex inDigits
    simp at isDigit

theorem addressRead_readLine (d : Descriptor) (i : Nat) :
    addressRead (readLine d i) = formatAddress d.address := by
  have assign : " = read_reg(" = " = read_reg" ++ "(" := by decide
  have line : (readLine d i).toList = ("    " ++ counterVariable i ++ " = read_reg").toList
      ++ '(' :: ((formatAddress d.address).toList ++ ')' :: []) := by
    rw [readLine, assign]
    simp [String.toList_append]
  have opens : '(' ∉ ("    " ++ counterVariable i ++ " = read_reg").toList := by
    have variable_ := notMem_counterVariable (c := '(') (by decide) (by decide) i
    simp [String.toList_append, variable_]
  rw [addressRead, line]
  simp only [drop_dropWhile_ne_append opens,
    takeWhile_ne_append (bracket_notMem_formatAddress d.address), String.ofList_toList]

/-- A probe reads the addresses of its counters. -/
theorem addressesRead_probeLines (b : Block) :
    addressesRead (probeLines b) = b.counters.map fun d => formatAddress d.address := by
  have places : b.counters.zipIdx.map Prod.fst = b.counters := List.zipIdx_map_fst _ _
  rw [addressesRead, filter_isReadLine_probeLines, List.map_map]
  conv_rhs => rw [← places, List.map_map]
  refine List.map_congr_left ?_
  intro c _
  exact addressRead_readLine c.1 c.2

end Script

namespace ChipShifts

variable {s : ChipShifts}

/-- A counter that is described has the address of its register. -/
theorem address_describe (resolver : Resolver) (c : Counter) :
    (resolver.describe c).address
      = resolver.shifts.registerAddress (resolver.describe c).register :=
  rfl

/-- If the registers of a probe are among some that are told apart, it reads as many addresses as it
has registers. -/
theorem nodup_addressesRead_iff {registers : Set Register} {b : Block}
    (apart : Set.InjOn s.registerAddress registers)
    (located : ∀ d ∈ b.counters, d.address = s.registerAddress d.register)
    (among : ∀ d ∈ b.counters, d.register ∈ registers) :
    (Script.addressesRead (Script.probeLines b)).Nodup
      ↔ (b.counters.map Descriptor.register).Nodup := by
  have texts : (b.counters.map fun d => formatAddress d.address)
      = (b.counters.map Descriptor.register).map fun r => formatAddress (s.registerAddress r) := by
    rw [List.map_map]
    refine List.map_congr_left ?_
    intro d mem
    rw [located d mem, Function.comp_apply]
  rw [Script.addressesRead_probeLines, texts]
  constructor
  · exact List.Nodup.of_map _
  · refine List.Nodup.map_on ?_
    rw [List.forall_mem_map]
    intro d mem
    rw [List.forall_mem_map]
    intro d' mem' same
    exact apart (among d mem) (among d' mem') (formatAddress_inj same)

/-- **Registers are told apart** by their addresses: with columns beyond the rows, for rows that do
not reach the columns, and with rows beyond the columns, for columns that do not reach the rows.
With the shifts of AIE2PS devices this is so for all rows below 32, and a probe there reads no
address twice exactly if no two of its counters have one register. -/
theorem registers_apart :
    (∀ s : ChipShifts, 20 ≤ s.row → s.row ≤ s.column → Set.InjOn s.registerAddress
      {r | r.tile.row.toNat < 2 ^ (s.column.toNat - s.row.toNat)}) ∧
    (∀ s : ChipShifts, 20 ≤ s.column → s.column ≤ s.row → Set.InjOn s.registerAddress
      {r | r.tile.column.toNat < 2 ^ (s.row.toNat - s.column.toNat)}) ∧
    Set.InjOn aie2ps.registerAddress {r | r.tile.row < 32} ∧
    ∀ (resolver : Resolver) (b : Block), resolver.shifts = aie2ps →
      (∀ d ∈ b.counters, ∃ c, resolver.describe c = d ∧ c.tile.row < 32) →
      ((Script.addressesRead (Script.probeLines b)).Nodup
        ↔ (b.counters.map Descriptor.register).Nodup) := by
  refine ⟨injOn_of_row_le, injOn_of_column_le, injOn_aie2ps, ?_⟩
  intro resolver b shifts described
  refine nodup_addressesRead_iff injOn_aie2ps ?_ ?_
  · intro d mem
    obtain ⟨c, rfl, -⟩ := described d mem
    rw [address_describe, shifts]
  · intro d mem
    obtain ⟨c, rfl, small⟩ := described d mem
    exact small

/-- Counters in the last row that is told apart and in the first row of the next column. -/
def edgeCounters : List Counter :=
  [⟨⟨8, 31⟩, 255, "memory_tile", 0⟩, ⟨⟨8, 31⟩, 255, "aie", 0⟩, ⟨⟨9, 0⟩, 0, "aie_memory", 0⟩,
    ⟨⟨8, 31⟩, 0, "interface_tile", 0⟩]

/-- A probe that reads them. -/
def edgeBlock : Block :=
  ⟨⟨"/d", "aie_runtime_control2.asm", 2, 8, 8, 11, [{ line := 7 }]⟩,
    edgeCounters.map (Resolver.describe ⟨aie2ps, .empty⟩)⟩

theorem registers_apart_atEdges :
    (∃ s : ChipShifts, s.column = 28 ∧ s.row = 20 ∧
      Set.InjOn s.registerAddress {r | r.tile.row.toNat < 2 ^ 8}) ∧
    (∃ s : ChipShifts, s.column = 20 ∧ s.row = 20 ∧
      Set.InjOn s.registerAddress {r | r.tile.column.toNat < 1}) ∧
    (Script.addressesRead (Script.probeLines edgeBlock)).Nodup := by
  refine ⟨⟨⟨28, 20, by decide, by decide⟩, rfl, rfl, ?_⟩,
    ⟨⟨20, 20, by decide, by decide⟩, rfl, rfl, ?_⟩, ?_⟩
  · exact registers_apart.1 _ (by decide) (by decide)
  · exact registers_apart.2.1 _ (by decide) (by decide)
  · have small : ∀ c ∈ edgeCounters, c.tile.row < 32 := by decide
    have described : ∀ d ∈ edgeBlock.counters,
        ∃ c, Resolver.describe ⟨aie2ps, .empty⟩ c = d ∧ c.tile.row < 32 := by
      intro d mem
      obtain ⟨c, isEdge, rfl⟩ := List.mem_map.1 mem
      exact ⟨c, rfl, small c isEdge⟩
    exact (registers_apart.2.2.2 ⟨aie2ps, .empty⟩ edgeBlock rfl described).2 (by decide)

end ChipShifts

end CounterTrace
