/-!
# White space

A character is blank when it has the Unicode property White_Space.  The class is
wider than the ASCII one: a no-break space or an ideographic space is as blank as
a tab.
-/

namespace CounterTrace.Text

/-- The first and last code points of the runs of characters with the property
White_Space. -/
def blankRuns : List (Nat × Nat) :=
  [(0x0009, 0x000D), (0x0020, 0x0020), (0x0085, 0x0085), (0x00A0, 0x00A0), (0x1680, 0x1680),
   (0x2000, 0x200A), (0x2028, 0x2029), (0x202F, 0x202F), (0x205F, 0x205F), (0x3000, 0x3000)]

/-- Whether a character is white space. -/
def isBlank (c : Char) : Bool :=
  blankRuns.any fun run => run.1 ≤ c.toNat && c.toNat ≤ run.2

/-- The text from its first character that is not white space on. -/
def trimStart (s : List Char) : List Char :=
  s.dropWhile isBlank

/-- The text up to its last character that is not white space. -/
def trimEnd (s : List Char) : List Char :=
  (s.reverse.dropWhile isBlank).reverse

/-- The text without the white space at its two ends. -/
def trim (s : List Char) : List Char :=
  trimEnd (trimStart s)

/-- Nothing is left once the leading white space is dropped exactly when there was nothing else. -/
theorem trimStart_eq_nil_iff {s : List Char} : trimStart s = [] ↔ s.all isBlank = true := by
  induction s with
  | nil => simp [trimStart]
  | cons c r ih =>
    by_cases h : isBlank c = true
    · rw [trimStart, List.dropWhile_cons_of_pos h, List.all_cons, h, Bool.true_and]
      exact ih
    · simp [trimStart, h]

/-- As for the leading white space, so for the trailing. -/
theorem trimEnd_eq_nil_iff {s : List Char} : trimEnd s = [] ↔ s.all isBlank = true := by
  have h := trimStart_eq_nil_iff (s := s.reverse)
  rwa [trimStart, List.all_reverse, ← List.reverse_eq_nil_iff] at h

/-- Trimming leaves nothing exactly of text that is white space throughout. -/
theorem trim_eq_nil_iff {s : List Char} : trim s = [] ↔ s.all isBlank = true := by
  rw [trim, trimEnd_eq_nil_iff]
  induction s with
  | nil => simp [trimStart]
  | cons c r ih =>
    by_cases h : isBlank c = true
    · rw [trimStart, List.dropWhile_cons_of_pos h, List.all_cons, h, Bool.true_and]
      exact ih
    · simp [trimStart, h]

/-- Both ends are trimmed, and what is between is not. -/
example : trim "\u3000a b\t\n".toList = "a b".toList := by decide

end CounterTrace.Text
