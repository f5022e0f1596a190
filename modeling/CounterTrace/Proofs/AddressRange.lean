import CounterTrace.Counter.Address
import Mathlib.Data.Nat.Bitwise

/-!
# The range of addresses

An address of 64 bits has room for all that goes into it.  Wherever a coordinate of eight bits is
shifted to, it fills at most eight places.  Two of them therefore leave one of the places 20, 28
and 36 clear, and what is less than `2 ^ 20` can be added to them without a carry beyond that
place.  That a coordinate itself stays within 64 bits is what is asked of the shifts.
-/

namespace CounterTrace

/-- Where a place of a number is clear, there is room for what is set there. -/
theorem add_two_pow_lt {n k w : Nat} (small : n < 2 ^ w) (inside : k < w)
    (clear : n.testBit k = false) : n + 2 ^ k < 2 ^ w := by
  have even : n / 2 ^ k % 2 = 0 := by
    rw [Nat.testBit_eq_decide_div_mod_eq, decide_eq_false_iff_not] at clear
    omega
  have width : 2 ^ w = 2 ^ k * (2 * 2 ^ (w - k - 1)) := by
    rw [← Nat.pow_succ', ← Nat.pow_add]
    congr 1
    omega
  have quotient : n / 2 ^ k < 2 * 2 ^ (w - k - 1) := by
    rw [Nat.div_lt_iff_lt_mul (Nat.two_pow_pos k), Nat.mul_comm, ← width]
    exact small
  -- an even quotient below an even bound is two below it
  have room : n / 2 ^ k + 2 ≤ 2 * 2 ^ (w - k - 1) := by omega
  have rest : n % 2 ^ k < 2 ^ k := Nat.mod_lt n (Nat.two_pow_pos k)
  calc
    n + 2 ^ k = 2 ^ k * (n / 2 ^ k) + n % 2 ^ k + 2 ^ k := by rw [Nat.div_add_mod]
    _ < 2 ^ k * (n / 2 ^ k) + 2 ^ k + 2 ^ k := by omega
    _ = 2 ^ k * (n / 2 ^ k + 2) := by rw [Nat.mul_add]; omega
    _ ≤ 2 ^ k * (2 * 2 ^ (w - k - 1)) := Nat.mul_le_mul_left _ room
    _ = 2 ^ w := width.symm

section Coordinates

variable {x y m n : Nat}

/-- A coordinate stays below the end of the eight places it is shifted to. -/
theorem coordinate_lt {w : Nat} (hx : x < 2 ^ 8) (hm : m + 8 ≤ w) : x * 2 ^ m < 2 ^ w := by
  calc
    x * 2 ^ m < 2 ^ 8 * 2 ^ m := Nat.mul_lt_mul_of_pos_right hx (Nat.two_pow_pos m)
    _ = 2 ^ (8 + m) := (Nat.pow_add 2 8 m).symm
    _ ≤ 2 ^ w := Nat.pow_le_pow_right (by decide) (by omega)

/-- A coordinate fills no other places than the eight it is shifted to. -/
theorem place_of_testBit {k : Nat} (hx : x < 2 ^ 8) (filled : (x * 2 ^ m).testBit k = true) :
    m ≤ k ∧ k < m + 8 := by
  rw [Nat.testBit_mul_two_pow, Bool.and_eq_true, decide_eq_true_eq] at filled
  refine ⟨filled.1, ?_⟩
  by_contra beyond
  have small : x < 2 ^ (k - m) :=
    Nat.lt_of_lt_of_le hx (Nat.pow_le_pow_right (by decide) (by omega))
  rw [Nat.testBit_lt_two_pow small] at filled
  exact absurd filled.2 (by decide)

/-- **Two coordinates leave a place clear**: of the places 20, 28 and 36, no two are among eight
places in a row. -/
theorem exists_clear_place (hx : x < 2 ^ 8) (hy : y < 2 ^ 8) :
    ∃ k, 20 ≤ k ∧ k < 37 ∧ (x * 2 ^ m ||| y * 2 ^ n).testBit k = false := by
  by_contra none
  have filled : ∀ k, 20 ≤ k → k < 37 → m ≤ k ∧ k < m + 8 ∨ n ≤ k ∧ k < n + 8 := by
    intro k lower upper
    have isSet : (x * 2 ^ m ||| y * 2 ^ n).testBit k = true := by
      rw [← Bool.not_eq_false]
      intro clear
      exact none ⟨k, lower, upper, clear⟩
    rw [Nat.testBit_or, Bool.or_eq_true] at isSet
    exact isSet.imp (place_of_testBit hx) (place_of_testBit hy)
  have first := filled 20 (by decide) (by decide)
  have second := filled 28 (by decide) (by decide)
  have third := filled 36 (by decide) (by decide)
  omega

/-- What is less than `2 ^ 20` can be added to two coordinates within their width. -/
theorem coordinates_add_lt {w offset : Nat} (hx : x < 2 ^ 8) (hy : y < 2 ^ 8) (hw : 37 ≤ w)
    (hm : m + 8 ≤ w) (hn : n + 8 ≤ w) (small : offset < 2 ^ 20) :
    (x * 2 ^ m ||| y * 2 ^ n) + offset < 2 ^ w := by
  obtain ⟨k, lower, upper, clear⟩ := exists_clear_place (m := m) (n := n) hx hy
  have both : x * 2 ^ m ||| y * 2 ^ n < 2 ^ w :=
    Nat.or_lt_two_pow (coordinate_lt hx hm) (coordinate_lt hy hn)
  have room := add_two_pow_lt both (by omega) clear
  have reach : 2 ^ 20 ≤ 2 ^ k := Nat.pow_le_pow_right (by decide) lower
  omega

end Coordinates

/-- The 256 registers of a module lie within the first `2 ^ 20` addresses of a tile. -/
theorem CounterModule.baseOffset_le (kind : CounterModule) :
    kind.baseOffset.toNat + 1024 ≤ 2 ^ 20 := by
  cases kind <;> decide

theorem CounterModule.offset_lt (kind : CounterModule) (number : UInt8) :
    kind.baseOffset.toNat + 4 * number.toNat < 2 ^ 20 := by
  have base := kind.baseOffset_le
  have bits := number.toNat_lt
  omega

namespace ChipShifts

variable (s : ChipShifts) (tile : Tile) (kind : CounterModule) (number : UInt8)

/-- What the first address of a tile is meant to be: the column at its place or the row at its. -/
def tileNumber : Nat :=
  tile.column.toNat * 2 ^ s.column.toNat ||| tile.row.toNat * 2 ^ s.row.toNat

/-- What the address of a counter is meant to be. -/
def registerNumber : Nat :=
  s.tileNumber tile + kind.baseOffset.toNat + 4 * number.toNat

theorem column_toNat_le : s.column.toNat ≤ 56 :=
  UInt8.le_iff_toNat_le.1 s.column_le

theorem row_toNat_le : s.row.toNat ≤ 56 :=
  UInt8.le_iff_toNat_le.1 s.row_le

/-- **How large an address can be**: eight places more than the larger shift, but for small
shifts. -/
theorem registerNumber_lt {w : Nat} (hw : 37 ≤ w) (column : s.column.toNat + 8 ≤ w)
    (row : s.row.toNat + 8 ≤ w) : s.registerNumber tile kind number < 2 ^ w := by
  rw [registerNumber, tileNumber, Nat.add_assoc]
  exact coordinates_add_lt tile.column.toNat_lt tile.row.toNat_lt hw column row
    (kind.offset_lt number)

theorem registerNumber_lt_word : s.registerNumber tile kind number < 2 ^ 64 := by
  have column := s.column_toNat_le
  have row := s.row_toNat_le
  exact s.registerNumber_lt tile kind number (by decide) (by omega) (by omega)

/-- A coordinate that is shifted within an address loses nothing. -/
theorem toNat_shiftLeft {x shift : UInt8} (small : shift.toNat ≤ 56) :
    (x.toUInt64 <<< shift.toUInt64).toNat = x.toNat * 2 ^ shift.toNat := by
  have bound := coordinate_lt (w := 64) x.toNat_lt (show shift.toNat + 8 ≤ 64 by omega)
  rw [UInt64.toNat_shiftLeft, UInt8.toNat_toUInt64, UInt8.toNat_toUInt64,
    Nat.mod_eq_of_lt (show shift.toNat < 64 by omega), Nat.shiftLeft_eq, Nat.mod_eq_of_lt bound]

theorem toNat_tileAddress : (s.tileAddress tile).toNat = s.tileNumber tile := by
  rw [tileAddress, UInt64.toNat_or, toNat_shiftLeft s.column_toNat_le,
    toNat_shiftLeft s.row_toNat_le, tileNumber]

theorem toNat_tileAddress_add_baseOffset : (s.tileAddress tile + kind.baseOffset).toNat
    = s.tileNumber tile + kind.baseOffset.toNat := by
  have bound := s.registerNumber_lt_word tile kind 0
  rw [registerNumber] at bound
  rw [UInt64.toNat_add, toNat_tileAddress, Nat.mod_eq_of_lt (by omega)]

theorem toNat_counterStride : counterStride.toNat = 4 := rfl

theorem toNat_mul_counterStride :
    (number.toUInt64 * counterStride).toNat = 4 * number.toNat := by
  have bits := number.toNat_lt
  rw [UInt64.toNat_mul, UInt8.toNat_toUInt64, toNat_counterStride]
  omega

/-- **An address is the number it is meant to be.** -/
theorem toNat_counterAddress :
    (s.counterAddress tile kind number).toNat = s.registerNumber tile kind number := by
  have bound := s.registerNumber_lt_word tile kind number
  rw [registerNumber] at bound ⊢
  rw [counterAddress, UInt64.toNat_add, toNat_tileAddress_add_baseOffset,
    toNat_mul_counterStride, Nat.mod_eq_of_lt bound]

/-- The address of a counter is the number it is meant to be, which is one of 64 bits, and no
operation on the way to it goes beyond them. -/
structure IsExact : Prop where
  bounded : s.registerNumber tile kind number < 2 ^ 64
  value : (s.counterAddress tile kind number).toNat = s.registerNumber tile kind number
  checked : s.counterAddress? tile kind number = some (s.counterAddress tile kind number)

/-- No check fails: a sum of numbers below 64 bits has no part beyond them. -/
theorem counterAddress?_eq_some :
    s.counterAddress? tile kind number = some (s.counterAddress tile kind number) := by
  have bound := s.registerNumber_lt_word tile kind number
  rw [registerNumber] at bound
  have shift (a : UInt64) {amount : UInt8} (small : amount.toNat ≤ 56) :
      checkedShift a amount = some (a <<< amount.toUInt64) :=
    if_pos (by omega)
  have base : checkedAdd (s.tileAddress tile) kind.baseOffset
      = some (s.tileAddress tile + kind.baseOffset) := by
    refine if_pos ?_
    rw [toNat_tileAddress, UInt64.size]
    omega
  have offset : checkedMul number.toUInt64 counterStride
      = some (number.toUInt64 * counterStride) := by
    have bits := number.toNat_lt
    refine if_pos ?_
    rw [UInt8.toNat_toUInt64, toNat_counterStride, UInt64.size]
    omega
  have sum : checkedAdd (s.tileAddress tile + kind.baseOffset) (number.toUInt64 * counterStride)
      = some (s.counterAddress tile kind number) := by
    refine if_pos ?_
    rw [toNat_tileAddress_add_baseOffset, toNat_mul_counterStride]
    exact bound
  rw [tileAddress] at base sum
  simp only [counterAddress?, shift _ s.column_toNat_le, shift _ s.row_toNat_le,
    Option.bind_eq_bind, Option.bind_some, base, offset, sum]

theorem isExact : s.IsExact tile kind number where
  bounded := s.registerNumber_lt_word tile kind number
  value := s.toNat_counterAddress tile kind number
  checked := s.counterAddress?_eq_some tile kind number

/-- Shifted by this amount, every coordinate stays within 64 bits. -/
def Fits (shift : UInt8) : Prop :=
  ∀ x : UInt8, x.toNat * 2 ^ shift.toNat < 2 ^ 64

theorem fits_iff {shift : UInt8} : Fits shift ↔ shift ≤ maxShift := by
  have limit : maxShift.toNat = 56 := rfl
  rw [UInt8.le_iff_toNat_le, limit]
  constructor
  · intro fits
    have largest : 255 * 2 ^ shift.toNat < 2 ^ 64 := fits 255
    by_contra beyond
    have power : 2 ^ 57 ≤ 2 ^ shift.toNat := Nat.pow_le_pow_right (by decide) (by omega)
    omega
  · intro small x
    exact coordinate_lt x.toNat_lt (by omega)

/-- **The shifts that are accepted are those that addresses need.**  Shifts are accepted exactly if
both keep every coordinate within 64 bits, and of two that do not the column's is reported; and for
shifts that are accepted the address of every counter is exact. -/
theorem ofAmounts_exact (column row : UInt8) :
    ((∃ s, ofAmounts column row = .ok s) ↔ Fits column ∧ Fits row) ∧
    (∀ fault, ofAmounts column row = .error fault ↔
      ¬ Fits column ∧ fault = ⟨.column, column⟩ ∨
      Fits column ∧ ¬ Fits row ∧ fault = ⟨.row, row⟩) ∧
    ∀ s, ofAmounts column row = .ok s →
      s.column = column ∧ s.row = row ∧ ∀ tile kind number, s.IsExact tile kind number := by
  refine ⟨?_, ?_, ?_⟩
  · simp only [fits_iff]
    constructor
    · rintro ⟨s, accepted⟩
      obtain ⟨rfl, rfl⟩ := ofAmounts_eq_ok_iff.1 accepted
      exact ⟨s.column_le, s.row_le⟩
    · intro small
      exact ⟨⟨column, row, small.1, small.2⟩, ofAmounts_eq_ok_iff.2 ⟨rfl, rfl⟩⟩
  · intro fault
    have limit : maxShift = 56 := rfl
    rw [ofAmounts_eq_error_iff, fits_iff, fits_iff, limit, UInt8.not_le, UInt8.not_le]
  · intro s accepted
    obtain ⟨sameColumn, sameRow⟩ := ofAmounts_eq_ok_iff.1 accepted
    exact ⟨sameColumn, sameRow, s.isExact⟩

/-- The sixteen highest places of the address are filled. -/
theorem ofAmounts_exact_highestPlaces :
    ∃ s, ofAmounts 56 48 = .ok s ∧
      s.registerNumber ⟨255, 255⟩ .memoryTile 255 = 0xffff00000009141c ∧
      s.IsExact ⟨255, 255⟩ .memoryTile 255 := by
  refine ⟨⟨56, 48, by decide, by decide⟩, rfl, by decide, ?_⟩
  exact ((ofAmounts_exact 56 48).2.2 _ rfl).2.2 ⟨255, 255⟩ .memoryTile 255

end ChipShifts

end CounterTrace
