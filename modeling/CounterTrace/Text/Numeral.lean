/-!
# Decimal numerals

A numeral is one or more ASCII digits, which one plus sign may precede.  Leading
zeros are allowed and change nothing.  A minus sign is never part of a numeral, not
even before zero, and digits of other scripts are not read.
-/

namespace CounterTrace.Text

/-- The number written by a non-empty run of ASCII digits. -/
def digits? (s : List Char) : Option Nat :=
  if s ≠ [] ∧ s.all Char.isDigit then some (Nat.ofDigitChars 10 s 0) else none

/-- The number a numeral stands for. -/
def number? : List Char → Option Nat
  | '+' :: r => digits? r
  | s => digits? s

/-- The 32-bit number a numeral stands for; larger numbers are refused, not reduced. -/
def word? (s : List Char) : Option UInt32 :=
  match number? s with
  | none => none
  | some n => if h : n < UInt32.size then some (UInt32.ofNatLT n h) else none

/-- The decimal digits of a number are read as that number. -/
@[simp] theorem digits?_toDigits (n : Nat) : digits? (Nat.toDigits 10 n) = some n := by
  have all : (Nat.toDigits 10 n).all Char.isDigit = true :=
    List.all_eq_true.2 fun _ h => Nat.isDigit_of_mem_toDigits (by decide) (by decide) h
  simp [digits?, Nat.toDigits_ne_nil, all, Nat.ofDigitChars_ten_toDigits]

/-- A numeral without a plus sign is its digits. -/
theorem number?_eq_digits? {s : List Char} (h : s.head? ≠ some '+') : number? s = digits? s := by
  unfold number?
  split
  · simp at h
  · rfl

@[simp] theorem number?_toDigits (n : Nat) : number? (Nat.toDigits 10 n) = some n := by
  rw [number?_eq_digits?, digits?_toDigits]
  intro h
  have sign := List.mem_of_mem_head? (Option.mem_def.2 h)
  exact absurd (Nat.isDigit_of_mem_toDigits (by decide) (by decide) sign) (by decide)

/-- Reading a 32-bit number succeeds exactly on the numerals below 2 ^ 32. -/
theorem word?_eq_some_iff {s : List Char} {n : UInt32} :
    word? s = some n ↔ number? s = some n.toNat := by
  unfold word?
  cases h : number? s with
  | none => simp
  | some m =>
    by_cases hm : m < UInt32.size
    · simp only [hm, dite_true, Option.some.injEq]
      constructor
      · rintro rfl; simp
      · rintro rfl; simp
    · simp only [hm, dite_false, reduceCtorEq, Option.some.injEq, false_iff]
      rintro rfl
      exact hm n.toNat_lt

/-- One plus sign and leading zeros are read; a minus sign, an empty text and a number of more
than 32 bits are not. -/
example : word? "+007".toList = some 7 ∧ word? "-0".toList = none ∧ word? "+".toList = none
    ∧ word? "4294967295".toList = some 4294967295 ∧ word? "4294967296".toList = none := by
  decide

end CounterTrace.Text
