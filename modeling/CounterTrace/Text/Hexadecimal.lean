/-!
# Hexadecimal numbers

A number is written in lower-case digits, with zeros in front of them up to a width.
-/

namespace CounterTrace.Text

/-- The lower-case hexadecimal digits of a number, with zeros before them up to the given
width.  A number of more digits is written in full. -/
def paddedHex (width n : Nat) : List Char :=
  (Nat.toDigits 16 n).leftpad width '0'

/-- Padding never shortens, and reaches the width. -/
theorem length_paddedHex (width n : Nat) :
    (paddedHex width n).length = max width (Nat.toDigits 16 n).length := by
  simp only [paddedHex, List.leftpad, List.length_append, List.length_replicate]
  omega

end CounterTrace.Text
