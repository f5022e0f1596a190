import CounterTrace.Proofs.AddressRange
import CounterTrace.Proofs.Cutting
import Mathlib.Data.List.Induction
import Mathlib.Tactic.Ring

/-!
# Addresses in hexadecimal

The text of an address is read back as the address.  Addresses below `2 ^ 40` have ten digits, with
zeros in front, so that their texts compare as the addresses do; beyond, there are as few digits as
the address takes.  Shifts of at most 32 keep the addresses of all counters below `2 ^ 40`.
-/

namespace CounterTrace

namespace Text

/-- The lower-case hexadecimal digits. -/
def hexDigits : List Char :=
  "0123456789abcdef".toList

theorem mem_hexDigits_iff {c : Char} : c ∈ hexDigits ↔ ∃ d < 16, c = Nat.digitChar d := by
  have digits : hexDigits = (List.range 16).map Nat.digitChar := by decide
  simp only [digits, List.mem_map, List.mem_range, eq_comm]

/-- There is nothing but lower-case hexadecimal digits in a text. -/
def IsHex (s : List Char) : Prop :=
  ∀ c ∈ s, c ∈ hexDigits

theorem hexDigitValue_lt {c : Char} (h : c ∈ hexDigits) : hexDigitValue c < 16 := by
  obtain ⟨d, small, rfl⟩ := mem_hexDigits_iff.1 h
  rw [hexDigitValue_digitChar small]
  exact small

theorem hexDigitValue_inj {c d : Char} (hc : c ∈ hexDigits) (hd : d ∈ hexDigits)
    (h : hexDigitValue c = hexDigitValue d) : c = d := by
  obtain ⟨m, hm, rfl⟩ := mem_hexDigits_iff.1 hc
  obtain ⟨n, hn, rfl⟩ := mem_hexDigits_iff.1 hd
  rw [hexDigitValue_digitChar hm, hexDigitValue_digitChar hn] at h
  rw [h]

/-- The letters come behind the numerals, as characters and as digits. -/
theorem hexDigitValue_lt_iff {c d : Char} (hc : c ∈ hexDigits) (hd : d ∈ hexDigits) :
    hexDigitValue c < hexDigitValue d ↔ c < d := by
  have all : ∀ m < 16, ∀ n < 16, m < n ↔ m.digitChar < n.digitChar := by decide
  obtain ⟨m, hm, rfl⟩ := mem_hexDigits_iff.1 hc
  obtain ⟨n, hn, rfl⟩ := mem_hexDigits_iff.1 hd
  rw [hexDigitValue_digitChar hm, hexDigitValue_digitChar hn]
  exact all m hm n hn

theorem hexValue_cons (c : Char) (s : List Char) :
    hexValue (c :: s) = hexDigitValue c * 16 ^ s.length + hexValue s := by
  induction s using List.reverseRecOn with
  | nil => simp [hexValue]
  | append_singleton s d ih =>
    rw [← List.cons_append, hexValue_append_singleton, hexValue_append_singleton, ih,
      List.length_append, List.length_singleton, Nat.pow_succ]
    ring

theorem hexValue_lt {s : List Char} (h : IsHex s) : hexValue s < 16 ^ s.length := by
  induction s with
  | nil => simp [hexValue]
  | cons c s ih =>
    obtain ⟨digit, rest⟩ := List.forall_mem_cons.1 h
    have small := ih rest
    have first := hexDigitValue_lt digit
    have room : hexDigitValue c * 16 ^ s.length ≤ 15 * 16 ^ s.length :=
      Nat.mul_le_mul_right _ (by omega)
    rw [hexValue_cons, List.length_cons, Nat.pow_succ]
    omega

/-- Numbers compare by what is above a place, and, where this is equal, by what is below it. -/
theorem mul_add_lt_iff {b q q' r r' : Nat} (hr : r < b) (hr' : r' < b) :
    q * b + r < q' * b + r' ↔ q < q' ∨ q = q' ∧ r < r' := by
  have above {q q' r r' : Nat} (hr : r < b) (less : q < q') : q * b + r < q' * b + r' := by
    have step : (q + 1) * b ≤ q' * b := Nat.mul_le_mul_right b less
    rw [Nat.succ_mul] at step
    omega
  rcases Nat.lt_trichotomy q q' with less | rfl | greater
  · simp only [above hr less, less, true_or]
  · omega
  · have beyond : q' * b + r' < q * b + r := above hr' greater
    omega

/-- **Texts of one length compare as their numbers do.** -/
theorem lt_iff_hexValue_lt {s t : List Char} (hs : IsHex s) (ht : IsHex t)
    (length : s.length = t.length) : s < t ↔ hexValue s < hexValue t := by
  induction s generalizing t with
  | nil =>
    rw [List.length_nil] at length
    rw [List.length_eq_zero_iff.1 length.symm]
    simp
  | cons c s ih =>
    cases t with
    | nil => simp at length
    | cons d t =>
      obtain ⟨hc, hs'⟩ := List.forall_mem_cons.1 hs
      obtain ⟨hd, ht'⟩ := List.forall_mem_cons.1 ht
      have length' : s.length = t.length := by simpa using length
      have same : c = d ↔ hexDigitValue c = hexDigitValue d :=
        ⟨congrArg _, hexDigitValue_inj hc hd⟩
      have small := hexValue_lt hs'
      rw [length'] at small
      rw [List.cons_lt_cons_iff, hexValue_cons, hexValue_cons, length',
        mul_add_lt_iff small (hexValue_lt ht'), hexDigitValue_lt_iff hc hd, same,
        ih hs' ht' length']

theorem isHex_toDigits (n : Nat) : IsHex (Nat.toDigits 16 n) := by
  intro c mem
  exact mem_hexDigits_iff.2 (exists_digit_of_mem_toDigits mem)

theorem isHex_paddedHex (width n : Nat) : IsHex (paddedHex width n) := by
  intro c mem
  exact mem_hexDigits_iff.2 (exists_digit_of_mem_paddedHex mem)

/-- **No text of a number is shorter than its digits.** -/
theorem length_toDigits_le {n : Nat} {t : List Char} (positive : 0 < n) (ht : IsHex t)
    (value : hexValue t = n) : (Nat.toDigits 16 n).length ≤ t.length := by
  have nonempty : 0 < t.length := by
    rw [List.length_pos_iff]
    rintro rfl
    rw [← value] at positive
    exact absurd positive (by decide)
  rw [Nat.length_toDigits_le_iff (by decide) nonempty, ← value]
  exact hexValue_lt ht

/-- A zero in front could be left out. -/
theorem head?_toDigits_ne {n : Nat} (positive : 0 < n) : (Nat.toDigits 16 n).head? ≠ some '0' := by
  intro zero
  obtain ⟨rest, digits⟩ := List.head?_eq_some_iff.1 zero
  have isHex := isHex_toDigits n
  have value := hexValue_toDigits n
  have nothing : hexDigitValue '0' = 0 := by decide
  rw [digits] at isHex
  rw [digits, hexValue_cons, nothing, Nat.zero_mul, Nat.zero_add] at value
  have shortest := length_toDigits_le positive (List.forall_mem_cons.1 isHex).2 value
  rw [digits, List.length_cons] at shortest
  omega

/-- Digits that reach the width are not padded. -/
theorem paddedHex_eq_toDigits {width n : Nat} (h : width ≤ (Nat.toDigits 16 n).length) :
    paddedHex width n = Nat.toDigits 16 n := by
  rw [paddedHex, List.leftpad, Nat.sub_eq_zero_of_le h, List.replicate_zero, List.nil_append]

end Text

open Text (IsHex hexValue paddedHex)

/-- The text of an address: a mark and digits, of which there are ten for the addresses below
`2 ^ 40`, and for others as few as there can be. -/
structure Spells (text : String) (digits : List Char) (address : UInt64) : Prop where
  text_eq : text = "0x" ++ String.ofList digits
  isHex : IsHex digits
  value : hexValue digits = address.toNat
  length_eq_iff : text.length = 12 ↔ address.toNat < 2 ^ 40
  length_le : text.length ≤ 18
  /-- No digits with the same value are fewer. -/
  shortest : 2 ^ 40 ≤ address.toNat → ∀ t, IsHex t → hexValue t = address.toNat →
    text.length ≤ 2 + t.length
  noLeadingZero : 2 ^ 40 ≤ address.toNat → digits.head? ≠ some '0'

theorem toList_formatAddress (address : UInt64) : (formatAddress address).toList
    = '0' :: 'x' :: paddedHex addressDigits address.toNat := by
  simp [formatAddress]

theorem length_formatAddress (address : UInt64) : (formatAddress address).length
    = 2 + max 10 (Nat.toDigits 16 address.toNat).length := by
  rw [← String.length_toList, toList_formatAddress, List.length_cons, List.length_cons,
    Text.length_paddedHex, addressDigits]
  omega

/-- There are more than ten digits from `16 ^ 10` on. -/
theorem length_formatAddress_eq_iff (address : UInt64) :
    (formatAddress address).length = 12 ↔ address.toNat < 2 ^ 40 := by
  have ten := Nat.length_toDigits_le_iff (b := 16) (n := address.toNat) (k := 10) (by decide)
    (by decide)
  have border : 16 ^ 10 = 2 ^ 40 := by decide
  rw [border] at ten
  rw [length_formatAddress, ← ten]
  omega

/-- **An address is spelled by its text.** -/
theorem spells_formatAddress (address : UInt64) :
    Spells (formatAddress address) (paddedHex addressDigits address.toNat) address := by
  have long (h : 2 ^ 40 ≤ address.toNat) : 10 < (Nat.toDigits 16 address.toNat).length := by
    have border := length_formatAddress_eq_iff address
    rw [length_formatAddress] at border
    omega
  constructor
  case text_eq => rfl
  case isHex => exact Text.isHex_paddedHex _ _
  case value => exact Text.hexValue_paddedHex _ _
  case length_eq_iff => exact length_formatAddress_eq_iff address
  case length_le =>
    have sixteen := (Nat.length_toDigits_le_iff (b := 16) (k := 16) (by decide) (by decide)).2
      (show address.toNat < 16 ^ 16 from address.toNat_lt)
    rw [length_formatAddress]
    omega
  case shortest =>
    intro h t isHex value
    have fewest := Text.length_toDigits_le (by omega) isHex value
    have more := long h
    rw [length_formatAddress]
    omega
  case noLeadingZero =>
    intro h
    have more : addressDigits < (Nat.toDigits 16 address.toNat).length := long h
    rw [Text.paddedHex_eq_toDigits (Nat.le_of_lt more)]
    exact Text.head?_toDigits_ne (by omega)

/-- Texts with ten digits compare as the addresses do. -/
theorem formatAddress_lt_iff {a b : UInt64} (ha : a.toNat < 2 ^ 40) (hb : b.toNat < 2 ^ 40) :
    formatAddress a < formatAddress b ↔ a < b := by
  have ten {c : UInt64} (hc : c.toNat < 2 ^ 40) :
      (paddedHex addressDigits c.toNat).length = 10 := by
    have length := (length_formatAddress_eq_iff c).2 hc
    rw [length_formatAddress] at length
    rw [Text.length_paddedHex, addressDigits]
    omega
  have length : (paddedHex addressDigits a.toNat).length
      = (paddedHex addressDigits b.toNat).length := (ten ha).trans (ten hb).symm
  have digits := Text.lt_iff_hexValue_lt (Text.isHex_paddedHex addressDigits a.toNat)
    (Text.isHex_paddedHex addressDigits b.toNat) length
  rw [Text.hexValue_paddedHex, Text.hexValue_paddedHex] at digits
  have mark (c : Char) (s t : List Char) : c :: s < c :: t ↔ s < t := by
    rw [List.cons_lt_cons_iff]
    simp
  rw [String.lt_iff, toList_formatAddress, toList_formatAddress, mark, mark, digits,
    UInt64.lt_iff_toNat_lt]

/-- Shifts of at most 32 keep addresses below `2 ^ 40`. -/
theorem ChipShifts.length_formatAddress_counterAddress {s : ChipShifts} (column : s.column ≤ 32)
    (row : s.row ≤ 32) (tile : Tile) (kind : CounterModule) (number : UInt8) :
    (formatAddress (s.counterAddress tile kind number)).length = 12 := by
  have column' : s.column.toNat ≤ 32 := UInt8.le_iff_toNat_le.1 column
  have row' : s.row.toNat ≤ 32 := UInt8.le_iff_toNat_le.1 row
  rw [length_formatAddress_eq_iff, s.toNat_counterAddress]
  exact s.registerNumber_lt tile kind number (by decide) (by omega) (by omega)

/-- **Nothing of an address is lost in its text.**  It is spelled as it should be, so that no two
addresses have one text; below `2 ^ 40` texts compare as the addresses do; and the address of every
counter has ten digits, if both shifts are at most 32. -/
theorem formatAddress_faithful :
    (∀ a, ∃ digits, Spells (formatAddress a) digits a) ∧
    Function.Injective formatAddress ∧
    (∀ a b : UInt64, a.toNat < 2 ^ 40 → b.toNat < 2 ^ 40 →
      (formatAddress a < formatAddress b ↔ a < b)) ∧
    ∀ s : ChipShifts, s.column ≤ 32 → s.row ≤ 32 → ∀ tile kind number,
      (formatAddress (s.counterAddress tile kind number)).length = 12 := by
  refine ⟨?_, ?_, ?_, ?_⟩
  · intro a
    exact ⟨_, spells_formatAddress a⟩
  · intro a b
    exact formatAddress_inj
  · intro a b
    exact formatAddress_lt_iff
  · intro s
    exact ChipShifts.length_formatAddress_counterAddress

/-- The first address with eleven digits, addresses whose last digits compare the other way, and
both coordinates in the eight places below `2 ^ 40`. -/
theorem formatAddress_faithful_atBorder :
    (∃ digits, Spells (formatAddress 0x10000000000) digits 0x10000000000 ∧
      digits.head? ≠ some '0') ∧
    formatAddress 0x9f < formatAddress 0xa0 ∧
    ∃ s : ChipShifts, s.column = 32 ∧ s.row = 32 ∧
      (formatAddress (s.counterAddress ⟨255, 255⟩ .memoryTile 255)).length = 12 := by
  refine ⟨?_, ?_, ⟨⟨32, 32, by decide, by decide⟩, rfl, rfl, ?_⟩⟩
  · obtain ⟨digits, spells⟩ := formatAddress_faithful.1 0x10000000000
    exact ⟨digits, spells, spells.noLeadingZero (by decide)⟩
  · exact (formatAddress_faithful.2.2.1 0x9f 0xa0 (by decide) (by decide)).2 (by decide)
  · exact formatAddress_faithful.2.2.2 _ (by decide) (by decide) ⟨255, 255⟩ .memoryTile 255

end CounterTrace
