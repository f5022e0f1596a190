import CounterTrace.Text.Blank
import CounterTrace.Text.Numeral

/-!
# Lists of line numbers

A list of line numbers is text with commas.  The white space around a number is dropped,
and so is what stands empty between commas.  Whatever is left and is no numeral of 32 bits
is rejected.
-/

namespace CounterTrace

open Text

/-- What a list of line numbers holds. -/
structure LineList where
  numbers : List UInt32
  /-- The tokens that are no numbers, in the order of the list. -/
  rejected : List String
deriving DecidableEq, Repr

namespace LineList

/-- The pieces between the commas, trimmed, without the blank ones. -/
def tokens (s : List Char) : List (List Char) :=
  ((s.splitOn ',').map trim).filter fun token => !token.isEmpty

/-- The numbers of a list, and what in it is no number. -/
def ofText (s : List Char) : LineList where
  numbers := (tokens s).filterMap word?
  rejected := ((tokens s).filter fun token => (word? token).isNone).map String.ofList

/-- Every token is a number or rejected. -/
theorem length_add_length (s : List Char) :
    (ofText s).numbers.length + (ofText s).rejected.length = (tokens s).length := by
  unfold ofText
  generalize tokens s = ts
  induction ts with
  | nil => rfl
  | cons t ts ih => cases h : word? t <;> simp_all <;> omega

/-- A comma between two lists joins them. -/
theorem tokens_append (s t : List Char) : tokens (s ++ ',' :: t) = tokens s ++ tokens t := by
  simp [tokens, List.splitOn_append_cons_self]

/-- Blank pieces are left out, and what is no number is rejected. -/
example : ofText " 5,,x y ,+6".toList = ⟨[5, 6], ["x y"]⟩ := by decide

end LineList

end CounterTrace
