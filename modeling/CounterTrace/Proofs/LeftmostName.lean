import CounterTrace.Proofs.Cutting
import CounterTrace.Program.Record
import Mathlib.Logic.ExistsUnique

/-!
# The leftmost name of a program

A file name is searched from the left, and the first place at which a program's name stands decides
about its record: without one there is no record; with one whose digits cannot be read, or are read
as a number that is too large, there is none either; and otherwise the record has that number.  A
later name is not looked at, even if it could be read and the first one cannot.
-/

namespace CounterTrace

namespace Program

open Text (isDecimalDigit number? word?)

/-- A text cut into what is before a program's name, the digits in the name, and what is behind
it. -/
structure Occurrence where
  before : List Char
  digits : List Char
  after : List Char
deriving DecidableEq, Repr

namespace Occurrence

/-- The text has a program's name at this place.  Its digits are decimal digits of any script. -/
structure IsIn (o : Occurrence) (text : List Char) : Prop where
  text_eq : text = o.before ++ "aie_runtime_control".toList ++ o.digits ++ ".asm".toList ++ o.after
  nonempty : o.digits ≠ []
  decimal : ∀ c ∈ o.digits, isDecimalDigit c = true

/-- No program's name stands further to the left. -/
structure IsLeftmost (o : Occurrence) (text : List Char) : Prop where
  isIn : o.IsIn text
  shortest : ∀ other : Occurrence, other.IsIn text → o.before.length ≤ other.before.length

/-- All digits are ASCII digits, so that they can be read. -/
def IsAscii (o : Occurrence) : Prop :=
  ∀ c ∈ o.digits, c.isDigit = true

instance : DecidablePred IsAscii :=
  fun o => inferInstanceAs (Decidable (∀ c ∈ o.digits, c.isDigit = true))

/-- The number that ASCII digits are read as. -/
def value (o : Occurrence) : Nat :=
  Nat.ofDigitChars 10 o.digits 0

variable {o : Occurrence} {c : Char} {r text : List Char}

theorem isIn_nil : ¬o.IsIn [] := by
  intro isIn
  have empty := isIn.text_eq
  simp at empty

/-- A name that stands at the beginning of a text is found there. -/
theorem digitsHere?_of_isIn (isIn : o.IsIn text) (first : o.before = []) :
    digitsHere? text = some o.digits := by
  have text_eq := isIn.text_eq
  rw [first, List.nil_append] at text_eq
  exact digitsHere?_eq_some_iff.2 ⟨isIn.nonempty, isIn.decimal, o.after, text_eq⟩

/-- What is found at the beginning of a text is the digits of a name that stands there. -/
theorem exists_isIn_of_digitsHere? {found : List Char} (h : digitsHere? text = some found) :
    ∃ o : Occurrence, o.IsIn text ∧ o.before = [] ∧ o.digits = found := by
  obtain ⟨nonempty, decimal, rest, text_eq⟩ := digitsHere?_eq_some_iff.1 h
  exact ⟨⟨[], found, rest⟩, ⟨text_eq, nonempty, decimal⟩, rfl, rfl⟩

/-- A name that stands further on in a text stands in what is behind the first character. -/
theorem isIn_cons_iff {first : Char} {before digits after : List Char} :
    (⟨first :: before, digits, after⟩ : Occurrence).IsIn (c :: r) ↔
      first = c ∧ (⟨before, digits, after⟩ : Occurrence).IsIn r := by
  constructor
  · intro isIn
    have text_eq := isIn.text_eq
    simp only [List.cons_append, List.cons.injEq] at text_eq
    exact ⟨text_eq.1.symm, text_eq.2, isIn.nonempty, isIn.decimal⟩
  · rintro ⟨rfl, isIn⟩
    exact ⟨congrArg (first :: ·) isIn.text_eq, isIn.nonempty, isIn.decimal⟩

/-- **There is only one leftmost occurrence**: its place is given, and its digits go as far as the
dot. -/
theorem IsLeftmost.unique {o o' : Occurrence} (h : o.IsLeftmost text) (h' : o'.IsLeftmost text) :
    o = o' := by
  have places : o.before.length = o'.before.length :=
    Nat.le_antisymm (h.shortest o' h'.isIn) (h'.shortest o h.isIn)
  have texts := h.isIn.text_eq.symm.trans h'.isIn.text_eq
  simp only [List.append_assoc] at texts
  obtain ⟨before, rest⟩ := List.append_inj texts places
  have dot : EndsRun isDecimalDigit (".asm".toList ++ o.after) := by rfl
  have dot' : EndsRun isDecimalDigit (".asm".toList ++ o'.after) := by rfl
  obtain ⟨digits, rest⟩ := append_inj_of_run h.isIn.decimal h'.isIn.decimal dot dot'
    (List.append_cancel_left rest)
  cases o
  cases o'
  rw [mk.injEq]
  exact ⟨before, digits, List.append_cancel_left rest⟩

end Occurrence

variable {text found : List Char} {o : Occurrence}

/-- The search finds the digits of a leftmost occurrence. -/
theorem exists_leftmost (h : digits? text = some found) :
    ∃ o : Occurrence, o.IsLeftmost text ∧ o.digits = found := by
  induction text with
  | nil => simp [digits?] at h
  | cons c r ih =>
    rw [digits?] at h
    cases here : digitsHere? (c :: r) with
    | some digits =>
      simp only [here, Option.some.injEq] at h
      obtain ⟨o, isIn, first, isFound⟩ := Occurrence.exists_isIn_of_digitsHere? here
      exact ⟨o, ⟨isIn, fun other _ => by simp [first]⟩, isFound.trans h⟩
    | none =>
      simp only [here] at h
      obtain ⟨⟨before, digits, after⟩, leftmost, isFound⟩ := ih h
      refine ⟨⟨c :: before, digits, after⟩, ⟨?_, ?_⟩, isFound⟩
      · exact Occurrence.isIn_cons_iff.2 ⟨rfl, leftmost.isIn⟩
      · intro other isIn
        obtain ⟨_ | ⟨first, before'⟩, digits', after'⟩ := other
        · simp [Occurrence.digitsHere?_of_isIn isIn rfl] at here
        · exact Nat.succ_le_succ (leftmost.shortest _ (Occurrence.isIn_cons_iff.1 isIn).2)

/-- The search finds something where there is an occurrence. -/
theorem digits?_ne_none (h : o.IsIn text) : digits? text ≠ none := by
  induction text generalizing o with
  | nil => exact absurd h Occurrence.isIn_nil
  | cons c r ih =>
    rw [digits?]
    cases here : digitsHere? (c :: r) with
    | some digits => simp
    | none =>
      obtain ⟨_ | ⟨first, before⟩, digits, after⟩ := o
      · simp [Occurrence.digitsHere?_of_isIn h rfl] at here
      · exact ih (Occurrence.isIn_cons_iff.1 h).2

/-- **The search finds nothing** exactly where there is no occurrence. -/
theorem digits?_eq_none_iff :
    digits? text = none ↔ ∀ o : Occurrence, ¬o.IsIn text := by
  constructor
  · intro nothing o isIn
    exact digits?_ne_none isIn nothing
  · intro absent
    cases h : digits? text with
    | none => rfl
    | some found =>
      obtain ⟨o, leftmost, -⟩ := exists_leftmost h
      exact absurd leftmost.isIn (absent o)

/-- **The search finds the leftmost occurrence.** -/
theorem digits?_eq_some_iff :
    digits? text = some found ↔ ∃ o : Occurrence, o.IsLeftmost text ∧ o.digits = found := by
  constructor
  · exact exists_leftmost
  · rintro ⟨o, leftmost, rfl⟩
    obtain ⟨found, h⟩ := Option.ne_none_iff_exists'.1 (digits?_ne_none leftmost.isIn)
    obtain ⟨o', leftmost', rfl⟩ := exists_leftmost h
    rw [h, leftmost.unique leftmost']

theorem digits?_of_leftmost (h : o.IsLeftmost text) : digits? text = some o.digits :=
  digits?_eq_some_iff.2 ⟨o, h, rfl⟩

/-- Where there is an occurrence, there is exactly one that is leftmost. -/
theorem existsUnique_leftmost (h : o.IsIn text) : ∃! o : Occurrence, o.IsLeftmost text := by
  obtain ⟨found, h⟩ := Option.ne_none_iff_exists'.1 (digits?_ne_none h)
  obtain ⟨first, leftmost, -⟩ := exists_leftmost h
  exact ⟨first, leftmost, fun other leftmost' => leftmost'.unique leftmost⟩

/-- The digits of a name are read as a number if all of them are ASCII digits. -/
theorem number?_digits (h : o.IsIn text) :
    number? o.digits = if o.IsAscii then some o.value else none := by
  have noSign : o.digits.head? ≠ some '+' := by
    intro sign
    have decimal := h.decimal '+' (List.mem_of_mem_head? sign)
    exact absurd decimal (by decide)
  have all : o.digits.all Char.isDigit = true ↔ o.IsAscii := List.all_eq_true
  rw [Text.number?_eq_digits? noSign, Text.digits?]
  simp only [all, h.nonempty, ne_eq, not_false_eq_true, true_and]
  rfl

theorem word?_digits_eq_none_iff (h : o.IsIn text) :
    word? o.digits = none ↔ ¬o.IsAscii ∨ 4294967296 ≤ o.value := by
  rw [word?, number?_digits h]
  by_cases ascii : o.IsAscii
  · by_cases small : o.value < UInt32.size
    · have notLarge : ¬4294967296 ≤ o.value := Nat.not_le.2 small
      simp only [ascii, if_true, small, dite_true, notLarge, not_true, or_self, reduceCtorEq]
    · have large : 4294967296 ≤ o.value := Nat.not_lt.1 small
      simp only [ascii, if_true, small, dite_false, large, or_true]
  · simp only [ascii, if_false, not_false_eq_true, true_or]

theorem word?_digits_eq_some_iff (h : o.IsIn text) {n : UInt32} :
    word? o.digits = some n ↔ o.IsAscii ∧ o.value = n.toNat := by
  rw [Text.word?_eq_some_iff, number?_digits h]
  simp

/-- **What becomes of a file name**: its leftmost occurrence of a program's name decides. -/
inductive Verdict (directory fileName : String) (points : List ProbePoint) :
    Except Refusal Record → Prop
  /-- There is no program's name in it. -/
  | unmatched (absent : ∀ o : Occurrence, ¬o.IsIn fileName.toList) :
    Verdict directory fileName points (.error (.unmatched fileName))
  /-- Its digits cannot be read as a number of 32 bits, and are given as they are written. -/
  | unread {o : Occurrence} (leftmost : o.IsLeftmost fileName.toList)
    (unread : ¬o.IsAscii ∨ 4294967296 ≤ o.value) :
    Verdict directory fileName points (.error (.outOfRange (String.ofList o.digits)))
  /-- The columns of the program would not be of 32 bits.  The number is given in plain decimal. -/
  | unfit {o : Occurrence} (leftmost : o.IsLeftmost fileName.toList) (ascii : o.IsAscii)
    (lower : 1073741824 ≤ o.value) (upper : o.value < 4294967296) :
    Verdict directory fileName points (.error (.outOfRange (toString o.value)))
  /-- There is a record with this number, and with the columns that go with it. -/
  | accepted {o : Occurrence} {r : Record} (leftmost : o.IsLeftmost fileName.toList)
    (ascii : o.IsAscii) (upper : o.value ≤ 1073741822) (number : r.id.val = o.value)
    (core : r.id.core = 4 * o.value) (firstColumn : r.id.firstColumn = 4 * o.value)
    (lastColumn : r.id.lastColumn = 4 * o.value + 3) (isIn : r.directory = directory)
    (named : r.fileName = fileName) (pointed : r.points = points) :
    Verdict directory fileName points (.ok r)

end Program

namespace Record

open Program

variable {directory fileName : String} {points : List ProbePoint} {o : Occurrence}

/-- A file name without a program's name is refused as a whole. -/
theorem ofFile_of_absent (absent : ∀ o : Occurrence, ¬o.IsIn fileName.toList) :
    ofFile directory fileName points = .error (.unmatched fileName) := by
  rw [ofFile, number, digits?_eq_none_iff.2 absent]

/-- Digits that cannot be read are refused as they are written. -/
theorem ofFile_of_unread (leftmost : o.IsLeftmost fileName.toList)
    (unread : ¬o.IsAscii ∨ 4294967296 ≤ o.value) :
    ofFile directory fileName points = .error (.outOfRange (String.ofList o.digits)) := by
  have nothing := (word?_digits_eq_none_iff leftmost.isIn).2 unread
  simp only [ofFile, number, digits?_of_leftmost leftmost, nothing]

/-- A number that can be read decides by its columns. -/
theorem ofFile_of_read (leftmost : o.IsLeftmost fileName.toList) (ascii : o.IsAscii)
    (small : o.value < 4294967296) :
    ofFile directory fileName points =
      if fits : columnsPerProgram * o.value + (columnsPerProgram - 1) < UInt32.size then
        .ok { directory, fileName, id := ⟨o.value, fits⟩, points }
      else .error (.outOfRange (toString o.value)) := by
  have value : o.value = (UInt32.ofNat o.value).toNat := by
    rw [UInt32.toNat_ofNat', Nat.mod_eq_of_lt small]
  have isRead := (word?_digits_eq_some_iff leftmost.isIn).2 ⟨ascii, value⟩
  simp only [ofFile, number, digits?_of_leftmost leftmost, isRead, ← value]

/-- A file name with a program's name in it is not refused as a whole. -/
theorem ofFile_ne_unmatched (leftmost : o.IsLeftmost fileName.toList) (name : String) :
    ofFile directory fileName points ≠ .error (.unmatched name) := by
  intro refused
  by_cases unread : ¬o.IsAscii ∨ 4294967296 ≤ o.value
  · rw [ofFile_of_unread leftmost unread] at refused
    cases refused
  · rw [not_or, Decidable.not_not, Nat.not_le] at unread
    rw [ofFile_of_read leftmost unread.1 unread.2] at refused
    split at refused <;> cases refused

/-- The verdict on a file name is what becomes of it. -/
theorem ofFile_of_verdict {result : Except Refusal Record}
    (h : Verdict directory fileName points result) :
    ofFile directory fileName points = result := by
  cases h with
  | unmatched absent => exact ofFile_of_absent absent
  | unread leftmost unread => exact ofFile_of_unread leftmost unread
  | unfit leftmost ascii lower upper =>
    rw [ofFile_of_read leftmost ascii upper, dif_neg]
    simp only [columnsPerProgram, UInt32.size]
    omega
  | @accepted o r leftmost ascii upper number core firstColumn lastColumn isIn named pointed =>
    have fits : columnsPerProgram * o.value + (columnsPerProgram - 1) < UInt32.size := by
      simp only [columnsPerProgram, UInt32.size]
      omega
    rw [ofFile_of_read leftmost ascii (by omega), dif_pos fits]
    obtain ⟨directory', fileName', ⟨n, fits'⟩, points'⟩ := r
    simp only at number isIn named pointed
    subst number isIn named pointed
    rfl

/-- There is a verdict on every file name but those whose number is the one excluded. -/
theorem exists_verdict
    (other : ∀ o : Occurrence, o.IsLeftmost fileName.toList → o.IsAscii → o.value ≠ 1073741823) :
    ∃ result, Verdict directory fileName points result := by
  cases search : digits? fileName.toList with
  | none => exact ⟨_, .unmatched (digits?_eq_none_iff.1 search)⟩
  | some found =>
    obtain ⟨o, leftmost, -⟩ := digits?_eq_some_iff.1 search
    by_cases unread : ¬o.IsAscii ∨ 4294967296 ≤ o.value
    · exact ⟨_, .unread leftmost unread⟩
    · rw [not_or, Decidable.not_not, Nat.not_le] at unread
      obtain ⟨ascii, upper⟩ := unread
      by_cases large : 1073741824 ≤ o.value
      · exact ⟨_, .unfit leftmost ascii large upper⟩
      · have small : o.value ≤ 1073741822 := by
          have notExcluded := other o leftmost ascii
          omega
        have fits : columnsPerProgram * o.value + (columnsPerProgram - 1) < UInt32.size := by
          simp only [columnsPerProgram, UInt32.size]
          omega
        exact ⟨.ok ⟨directory, fileName, ⟨o.value, fits⟩, points⟩,
          .accepted leftmost ascii small rfl rfl rfl rfl rfl rfl rfl⟩

/-- **Records are made of exactly the file names that are meant.**  A file name is refused as a
whole exactly if there is no program's name in it.  If there is one, exactly one of them is
leftmost, and it decides what becomes of the file name. -/
theorem ofFile_eq_iff (directory fileName : String) (points : List ProbePoint) :
    (∀ name, ofFile directory fileName points = .error (.unmatched name) ↔
      name = fileName ∧ ∀ o : Occurrence, ¬o.IsIn fileName.toList) ∧
    ((∃ o : Occurrence, o.IsIn fileName.toList) → ∃! o : Occurrence, o.IsLeftmost fileName.toList) ∧
    ((∀ o : Occurrence, o.IsLeftmost fileName.toList → o.IsAscii → o.value ≠ 1073741823) →
      ∀ result, ofFile directory fileName points = result ↔
        Verdict directory fileName points result) := by
  refine ⟨?_, ?_, ?_⟩
  · intro name
    constructor
    · intro refused
      have absent : ∀ o : Occurrence, ¬o.IsIn fileName.toList := by
        intro o isIn
        obtain ⟨first, leftmost, -⟩ := existsUnique_leftmost isIn
        exact ofFile_ne_unmatched leftmost name refused
      rw [ofFile_of_absent absent, Except.error.injEq, Refusal.unmatched.injEq] at refused
      exact ⟨refused.symm, absent⟩
    · rintro ⟨rfl, absent⟩
      exact ofFile_of_absent absent
  · rintro ⟨o, isIn⟩
    exact existsUnique_leftmost isIn
  · intro other result
    constructor
    · rintro rfl
      have decided : ∃ result, Verdict directory fileName points result := exists_verdict other
      obtain ⟨result, verdict⟩ := decided
      exact ofFile_of_verdict verdict ▸ verdict
    · exact ofFile_of_verdict

/-- A file name in which the first stem is not that of a name, and the second name is one with
leading zeros. -/
def lateName : String :=
  "aie_runtime_control7/aie_runtime_control0012.asm,aie_runtime_control3.asm"

theorem ofFile_eq_iff_lateName :
    (∀ o : Occurrence, o.IsLeftmost lateName.toList → o.IsAscii → o.value ≠ 1073741823) ∧
      (∃! o : Occurrence, o.IsLeftmost lateName.toList) ∧
      Verdict "/d" lateName [] (.ok ⟨"/d", lateName, ⟨12, by decide⟩, []⟩) := by
  have search : digits? lateName.toList = some "0012".toList := rfl
  have other : ∀ o : Occurrence, o.IsLeftmost lateName.toList → o.IsAscii →
      o.value ≠ 1073741823 := by
    intro o leftmost _
    have isFound : "0012".toList = o.digits :=
      Option.some.inj (search.symm.trans (digits?_of_leftmost leftmost))
    rw [Occurrence.value, ← isFound]
    decide
  obtain ⟨first, leftmost, -⟩ := digits?_eq_some_iff.1 search
  obtain ⟨-, unique, verdict⟩ := ofFile_eq_iff "/d" lateName []
  exact ⟨other, unique ⟨first, leftmost.isIn⟩, (verdict other _).1 rfl⟩

end Record

end CounterTrace
