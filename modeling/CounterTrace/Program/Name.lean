import CounterTrace.Text.DecimalDigit
import CounterTrace.Text.Numeral
import CounterTrace.Text.Search

/-!
# The number of a control program

The file of a control program is called `aie_runtime_control`, a number, and `.asm`.
The name is looked for anywhere in a file name, and the leftmost occurrence counts.
Decimal digits of every script delimit the number, but only ASCII digits are read: a
number in other digits is there and out of range.
-/

namespace CounterTrace.Program

open Text

/-- The text before the number. -/
def stem : List Char :=
  "aie_runtime_control".toList

/-- The text after the number. -/
def extension : List Char :=
  ".asm".toList

/-- The digits of the number, if a program's name begins here. -/
def digitsHere? (s : List Char) : Option (List Char) :=
  match stem.isPrefixOf? s with
  | none => none
  | some r =>
    let digits := r.takeWhile isDecimalDigit
    if digits ≠ [] ∧ extension.isPrefixOf (r.dropWhile isDecimalDigit) then some digits else none

/-- The digits of the number in the leftmost program's name. -/
def digits? : List Char → Option (List Char)
  | [] => none
  | c :: r =>
    match digitsHere? (c :: r) with
    | some digits => some digits
    | none => digits? r

/-- Why a file name is not that of a control program. -/
inductive Refusal where
  /-- No program's name occurs in the file name. -/
  | unmatched (fileName : String)
  /-- The number is not one of 32 bits, or its columns are not. -/
  | outOfRange (number : String)
deriving DecidableEq, Repr

/-- The wording of a refusal. -/
def Refusal.message : Refusal → String
  | .unmatched fileName => "Unable to extract control program id from file name: " ++ fileName
  | .outOfRange number => "Control program id " ++ number ++ " is out of range"

/-- The number of the control program that a file name names. -/
def number (fileName : String) : Except Refusal UInt32 :=
  match digits? fileName.toList with
  | none => .error (.unmatched fileName)
  | some digits =>
    match word? digits with
    | none => .error (.outOfRange (String.ofList digits))
    | some n => .ok n

/-- Digits that are found are there, and are decimal digits. -/
theorem digitsHere?_eq_some_iff {s digits : List Char} :
    digitsHere? s = some digits ↔
      digits ≠ [] ∧ (∀ c ∈ digits, isDecimalDigit c = true) ∧
        ∃ rest, s = stem ++ digits ++ extension ++ rest := by
  have dot : isDecimalDigit '.' = false := by decide
  constructor
  · intro h
    unfold digitsHere? at h
    split at h
    · simp at h
    · rename_i r hr
      rw [isPrefixOf?_eq_some_iff] at hr
      simp only [Option.ite_none_right_eq_some, Option.some.injEq] at h
      obtain ⟨⟨nonempty, ends⟩, rfl⟩ := h
      obtain ⟨rest, hrest⟩ := List.isPrefixOf_iff_prefix.1 ends
      refine ⟨nonempty, List.all_eq_true.1 List.all_takeWhile, rest, ?_⟩
      rw [List.append_assoc, List.append_assoc, hrest, List.takeWhile_append_dropWhile, hr]
  · rintro ⟨nonempty, all, rest, rfl⟩
    have start : stem.isPrefixOf? (stem ++ digits ++ extension ++ rest) =
        some (digits ++ (extension ++ rest)) := by
      rw [isPrefixOf?_eq_some_iff]
      simp
    have head : extension ++ rest = '.' :: ("asm".toList ++ rest) := rfl
    have take : (digits ++ (extension ++ rest)).takeWhile isDecimalDigit = digits := by
      rw [List.takeWhile_append_of_pos all, head, List.takeWhile_cons_of_neg (by simp [dot])]
      simp
    have drop : (digits ++ (extension ++ rest)).dropWhile isDecimalDigit = extension ++ rest := by
      rw [List.dropWhile_append_of_pos all, head, List.dropWhile_cons_of_neg (by simp [dot])]
    have ends : extension.isPrefixOf (extension ++ rest) = true :=
      List.isPrefixOf_iff_prefix.2 (List.prefix_append _ _)
    unfold digitsHere?
    rw [start]
    simp only [take, drop, ends, and_true, nonempty, ne_eq, not_false_eq_true, if_true]

/-- The leftmost name counts, and only ASCII digits are read. -/
example : number "aie_runtime_control7/aie_runtime_control12.asm" = .ok 12
    ∧ number "aie_runtime_control٣.asm,aie_runtime_control3.asm" = .error (.outOfRange "٣")
    ∧ number "aie_runtime_control.asm" = .error (.unmatched "aie_runtime_control.asm") :=
  ⟨rfl, rfl, rfl⟩

end CounterTrace.Program
