import CounterTrace.Manifest.LineList
import CounterTrace.Proofs.Fields
import CounterTrace.Script.Text

/-!
# Reading line numbers

A list of line numbers is cut at its commas.  A piece that is white space throughout says nothing.
Of any other, the white space around it is dropped; what is left is one of the numbers if it is a
numeral of 32 bits, and otherwise it is rejected as it is.  The numbers of a list that was written
come back, whatever white space stands around them, and so do those in the first line of a probe.
-/

namespace CounterTrace

namespace Text

/-- The second text is what is left of the first when the white space around it is dropped. -/
structure IsTrimmed (s trimmed : List Char) : Prop where
  around : ∃ before after, before.all isBlank = true ∧ after.all isBlank = true ∧
    s = before ++ trimmed ++ after
  starts : ∀ c ∈ trimmed.head?, isBlank c = false
  ends : ∀ c ∈ trimmed.getLast?, isBlank c = false

theorem trimStart_blank_append {before : List Char} (blank : before.all isBlank = true)
    (s : List Char) : trimStart (before ++ s) = trimStart s :=
  List.dropWhile_append_of_pos (List.all_eq_true.1 blank)

theorem trimEnd_append_blank {after : List Char} (blank : after.all isBlank = true)
    (s : List Char) : trimEnd (s ++ after) = trimEnd s := by
  have reversed : ∀ c ∈ after.reverse, isBlank c = true := by
    intro c mem
    exact List.all_eq_true.1 blank c (List.mem_reverse.1 mem)
  rw [trimEnd, List.reverse_append, List.dropWhile_append_of_pos reversed, trimEnd]

theorem dropWhile_isBlank_eq_self {s : List Char} (starts : ∀ c ∈ s.head?, isBlank c = false) :
    s.dropWhile isBlank = s := by
  cases s with
  | nil => rfl
  | cons c s =>
    have notBlank := starts c rfl
    exact List.dropWhile_cons_of_neg (by simp [notBlank])

/-- What is in front of a text when it is not white space is not dropped. -/
theorem head?_dropWhile_isBlank (s : List Char) :
    ∀ c ∈ (s.dropWhile isBlank).head?, isBlank c = false := by
  intro c mem
  have notBlank := List.head?_dropWhile_not isBlank s
  rw [Option.mem_def.1 mem] at notBlank
  exact notBlank

/-- A text is what is left of it at its end, and white space. -/
theorem exists_trimEnd_append (s : List Char) :
    ∃ after, after.all isBlank = true ∧ s = trimEnd s ++ after := by
  refine ⟨(s.reverse.takeWhile isBlank).reverse, ?_, ?_⟩
  · rw [List.all_reverse, List.all_takeWhile]
  · rw [trimEnd, ← List.reverse_append, List.takeWhile_append_dropWhile, List.reverse_reverse]

theorem isTrimmed_trim (s : List Char) : IsTrimmed s (trim s) := by
  obtain ⟨after, blank, trimStart_eq⟩ := exists_trimEnd_append (trimStart s)
  constructor
  case around =>
    refine ⟨s.takeWhile isBlank, after, List.all_takeWhile, blank, ?_⟩
    rw [List.append_assoc, trim, ← trimStart_eq, trimStart, List.takeWhile_append_dropWhile]
  case starts =>
    intro c mem
    -- The first character that is left at the end is the first that is left at the start.
    refine head?_dropWhile_isBlank s c ?_
    change c ∈ (trimStart s).head?
    rw [trim] at mem
    rw [trimStart_eq, List.head?_append, Option.mem_def.1 mem]
    rfl
  case ends =>
    intro c mem
    rw [trim, trimEnd, List.getLast?_reverse] at mem
    exact head?_dropWhile_isBlank _ c mem

/-- **Trimming** leaves a text without the white space around it. -/
theorem isTrimmed_iff {s trimmed : List Char} : IsTrimmed s trimmed ↔ trim s = trimmed := by
  constructor
  · intro h
    obtain ⟨before, after, before_blank, after_blank, rfl⟩ := h.around
    rw [trim, List.append_assoc, trimStart_blank_append before_blank]
    cases trimmed with
    | nil =>
      have nothing : trimStart after = [] := trimStart_eq_nil_iff.2 after_blank
      rw [List.nil_append, nothing]
      rfl
    | cons c trimmed =>
      have starts : ∀ d ∈ (c :: trimmed ++ after).head?, isBlank d = false := h.starts
      have ends : ∀ d ∈ (c :: trimmed).reverse.head?, isBlank d = false := by
        rw [List.head?_reverse]
        exact h.ends
      rw [trimStart, dropWhile_isBlank_eq_self starts, trimEnd_append_blank after_blank, trimEnd,
        dropWhile_isBlank_eq_self ends, List.reverse_reverse]
  · rintro rfl
    exact isTrimmed_trim s

theorem isBlank_of_isDigit {c : Char} (h : c.isDigit = true) : isBlank c = false := by
  simp only [Char.isDigit, Bool.and_eq_true, decide_eq_true_eq, UInt32.le_iff_toNat_le] at h
  change 48 ≤ c.toNat ∧ c.toNat ≤ 57 at h
  simp only [isBlank, blankRuns, List.any_eq_false, Bool.and_eq_true, decide_eq_true_eq]
  rintro ⟨first, last⟩ mem
  simp only [List.mem_cons, Prod.mk.injEq, List.not_mem_nil, or_false] at mem
  omega

/-- Text that has no white space in it comes out as it is, whatever white space is around it. -/
theorem isTrimmed_of_notBlank {before s after : List Char}
    (before_blank : before.all isBlank = true) (after_blank : after.all isBlank = true)
    (notBlank : ∀ c ∈ s, isBlank c = false) :
    IsTrimmed (before ++ s ++ after) s where
  around := ⟨before, after, before_blank, after_blank, rfl⟩
  starts c mem := notBlank c (List.mem_of_mem_head? mem)
  ends c mem := notBlank c (List.mem_of_mem_getLast? mem)

/-- A text stands for a number: it is a numeral of ASCII digits, before which a plus sign may
stand. -/
inductive IsNumeral : List Char → Nat → Prop
  | plain {digits : List Char} (nonempty : digits ≠ [])
    (ascii : ∀ c ∈ digits, c.isDigit = true) : IsNumeral digits (Nat.ofDigitChars 10 digits 0)
  | signed {digits : List Char} (nonempty : digits ≠ [])
    (ascii : ∀ c ∈ digits, c.isDigit = true) :
    IsNumeral ('+' :: digits) (Nat.ofDigitChars 10 digits 0)

variable {s : List Char} {value : Nat}

theorem digits?_eq_some_iff : digits? s = some value ↔
    s ≠ [] ∧ (∀ c ∈ s, c.isDigit = true) ∧ Nat.ofDigitChars 10 s 0 = value := by
  simp only [digits?, List.all_eq_true, Option.ite_none_right_eq_some, Option.some.injEq, and_assoc]

/-- A text is read as the number it stands for. -/
theorem number?_eq_some_iff : number? s = some value ↔ IsNumeral s value := by
  constructor
  · intro h
    unfold number? at h
    split at h
    · obtain ⟨nonempty, ascii, rfl⟩ := digits?_eq_some_iff.1 h
      exact .signed nonempty ascii
    · obtain ⟨nonempty, ascii, rfl⟩ := digits?_eq_some_iff.1 h
      exact .plain nonempty ascii
  · intro h
    cases h with
    | plain nonempty ascii =>
      have noSign : s.head? ≠ some '+' := by
        intro sign
        have digit := ascii '+' (List.mem_of_mem_head? sign)
        exact absurd digit (by decide)
      rw [number?_eq_digits? noSign]
      exact digits?_eq_some_iff.2 ⟨nonempty, ascii, rfl⟩
    | signed nonempty ascii => exact digits?_eq_some_iff.2 ⟨nonempty, ascii, rfl⟩

/-- **A numeral of 32 bits** is read as its number. -/
theorem word?_of_isNumeral (numeral : IsNumeral s value) (small : value < 4294967296) :
    word? s = some (UInt32.ofNat value) := by
  rw [word?_eq_some_iff, number?_eq_some_iff, UInt32.toNat_ofNat', Nat.mod_eq_of_lt small]
  exact numeral

/-- **Nothing else is read**: neither what is no numeral nor one of a larger number. -/
theorem word?_eq_none_iff : word? s = none ↔ ∀ value, IsNumeral s value → 4294967296 ≤ value := by
  constructor
  · intro h value numeral
    apply Nat.le_of_not_lt
    intro small
    rw [word?_of_isNumeral numeral small] at h
    exact absurd h (by simp)
  · intro large
    cases h : word? s with
    | none => rfl
    | some n =>
      have numeral := number?_eq_some_iff.1 (word?_eq_some_iff.1 h)
      have small := n.toNat_lt
      have notSmall := large n.toNat numeral
      omega

end Text

open Text

theorem notMem_of_mem_splitOn {s piece : List Char} {c : Char} (h : piece ∈ s.splitOn c) :
    c ∉ piece := by
  induction s generalizing piece with
  | nil =>
    rw [List.splitOn_nil, List.mem_singleton] at h
    simp [h]
  | cons d s ih =>
    rw [List.splitOn_cons_eq_if_modifyHead] at h
    by_cases separates : d = c
    · rw [if_pos (by simpa using separates), List.mem_cons] at h
      rcases h with rfl | h
      · simp
      · exact ih h
    · rw [if_neg (by simpa using separates)] at h
      cases pieces : s.splitOn c with
      | nil => exact absurd pieces (List.splitOn_ne_nil c s)
      | cons first rest =>
        rw [pieces] at ih
        rw [pieces, List.modifyHead_cons, List.mem_cons] at h
        rcases h with rfl | h
        · rw [List.mem_cons, not_or]
          exact ⟨fun same => separates same.symm, ih List.mem_cons_self⟩
        · exact ih (List.mem_cons_of_mem first h)

namespace LineList

/-- **What the pieces of a list are read as**, piece by piece and in order. -/
inductive Reads : List (List Char) → LineList → Prop
  /-- There are no more pieces. -/
  | done : Reads [] ⟨[], []⟩
  /-- A piece of white space says nothing. -/
  | blank {piece : List Char} {pieces : List (List Char)} {list : LineList}
    (blank : piece.all isBlank = true) (rest : Reads pieces list) : Reads (piece :: pieces) list
  /-- A numeral of 32 bits, without the white space around it, gives its number. -/
  | number {piece token : List Char} {pieces : List (List Char)} {list : LineList} {value : Nat}
    (trimmed : IsTrimmed piece token) (numeral : IsNumeral token value) (small : value < 4294967296)
    (rest : Reads pieces list) :
    Reads (piece :: pieces) ⟨UInt32.ofNat value :: list.numbers, list.rejected⟩
  /-- Anything else is rejected, without the white space around it. -/
  | rejected {piece token : List Char} {pieces : List (List Char)} {list : LineList}
    (notBlank : piece.all isBlank = false) (trimmed : IsTrimmed piece token)
    (noNumber : ∀ value, IsNumeral token value → 4294967296 ≤ value) (rest : Reads pieces list) :
    Reads (piece :: pieces) ⟨list.numbers, String.ofList token :: list.rejected⟩

/-- The numbers of some tokens, and those that are none. -/
def ofTokens (tokens : List (List Char)) : LineList where
  numbers := tokens.filterMap word?
  rejected := (tokens.filter fun token => (word? token).isNone).map String.ofList

/-- The tokens of some pieces: those that are not blank, trimmed. -/
def tokensOf (pieces : List (List Char)) : List (List Char) :=
  (pieces.map trim).filter fun token => !token.isEmpty

theorem ofText_eq (s : List Char) : ofText s = ofTokens (tokensOf (s.splitOn ',')) := rfl

theorem tokensOf_cons (piece : List Char) (pieces : List (List Char)) :
    tokensOf (piece :: pieces)
      = if piece.all isBlank = true then tokensOf pieces else trim piece :: tokensOf pieces := by
  by_cases blank : piece.all isBlank = true
  · simp [tokensOf, blank, trim_eq_nil_iff.2 blank]
  · have nonempty : trim piece ≠ [] := fun empty => blank (trim_eq_nil_iff.1 empty)
    simp [tokensOf, blank, nonempty]

theorem ofTokens_cons (token : List Char) (tokens : List (List Char)) :
    ofTokens (token :: tokens) =
      match word? token with
      | some n => ⟨n :: (ofTokens tokens).numbers, (ofTokens tokens).rejected⟩
      | none => ⟨(ofTokens tokens).numbers, String.ofList token :: (ofTokens tokens).rejected⟩ := by
  cases h : word? token <;> simp [ofTokens, h]

/-- **The pieces of a list are read** as is said of them. -/
theorem reads_iff {pieces : List (List Char)} {list : LineList} :
    Reads pieces list ↔ ofTokens (tokensOf pieces) = list := by
  constructor
  · intro h
    induction h with
    | done => rfl
    | blank blank rest ih => rw [tokensOf_cons, if_pos blank, ih]
    | @number piece token _ _ _ trimmed numeral small rest ih =>
      have notBlank : ¬piece.all isBlank = true := by
        intro blank
        rw [← trim_eq_nil_iff, isTrimmed_iff.1 trimmed] at blank
        subst blank
        cases numeral
        contradiction
      rw [tokensOf_cons, if_neg notBlank, isTrimmed_iff.1 trimmed, ofTokens_cons,
        word?_of_isNumeral numeral small, ih]
    | rejected notBlank trimmed noNumber rest ih =>
      rw [tokensOf_cons, if_neg (by simp [notBlank]), isTrimmed_iff.1 trimmed, ofTokens_cons,
        word?_eq_none_iff.2 noNumber, ih]
  · rintro rfl
    induction pieces with
    | nil => exact .done
    | cons piece pieces ih =>
      rw [tokensOf_cons]
      by_cases blank : piece.all isBlank = true
      · rw [if_pos blank]
        exact .blank blank ih
      · rw [if_neg blank, ofTokens_cons]
        cases h : word? (trim piece) with
        | none =>
          exact .rejected (by simpa using blank) (isTrimmed_trim piece) (word?_eq_none_iff.1 h) ih
        | some n =>
          have numeral := number?_eq_some_iff.1 (word?_eq_some_iff.1 h)
          have isNumber := Reads.number (isTrimmed_trim piece) numeral n.toNat_lt ih
          rwa [UInt32.ofNat_toNat] at isNumber

/-- What is rejected: text that is not empty, without commas, and without white space around it. -/
structure IsToken (token : List Char) : Prop where
  nonempty : token ≠ []
  noComma : ',' ∉ token
  starts : ∀ c ∈ token.head?, isBlank c = false
  ends : ∀ c ∈ token.getLast?, isBlank c = false

/-- **What a list of line numbers is read as**, told by its pieces. -/
structure IsReading (s : List Char) (list : LineList) : Prop where
  /-- The pieces are what stands between the commas. -/
  joined : [','].intercalate (s.splitOn ',') = s
  noComma : ∀ piece ∈ s.splitOn ',', ',' ∉ piece
  reads : Reads (s.splitOn ',') list
  /-- Every piece that is not blank is a number or rejected, and none is both. -/
  count : list.numbers.length + list.rejected.length
    = (s.splitOn ',').countP fun piece => !piece.all isBlank
  tokens : ∀ token ∈ list.rejected, IsToken token.toList

theorem length_tokensOf (pieces : List (List Char)) :
    (tokensOf pieces).length = pieces.countP fun piece => !piece.all isBlank := by
  induction pieces with
  | nil => rfl
  | cons piece pieces ih =>
    rw [tokensOf_cons, List.countP_cons]
    by_cases blank : piece.all isBlank = true <;> simp [blank, ih]

theorem isToken_of_mem_tokens {s token : List Char} (h : token ∈ tokens s) : IsToken token := by
  obtain ⟨mem, nonempty⟩ := List.mem_filter.1 h
  obtain ⟨piece, isPiece, rfl⟩ := List.mem_map.1 mem
  have trimmed := isTrimmed_trim piece
  constructor
  case nonempty => simpa using nonempty
  case noComma =>
    intro comma
    obtain ⟨before, after, -, -, piece_eq⟩ := trimmed.around
    apply notMem_of_mem_splitOn isPiece
    rw [piece_eq]
    exact List.mem_append_left after (List.mem_append_right before comma)
  case starts => exact trimmed.starts
  case ends => exact trimmed.ends

theorem isReading_ofText (s : List Char) : IsReading s (ofText s) where
  joined := List.intercalate_splitOn ','
  noComma _ := notMem_of_mem_splitOn
  reads := reads_iff.2 rfl
  count := (length_add_length s).trans (length_tokensOf _)
  tokens := by
    intro token mem
    obtain ⟨t, isRejected, rfl⟩ := List.mem_map.1 mem
    rw [String.toList_ofList]
    exact isToken_of_mem_tokens (List.mem_filter.1 isRejected).1

theorem isReading_iff {s : List Char} {list : LineList} : IsReading s list ↔ ofText s = list := by
  constructor
  · intro h
    exact reads_iff.1 h.reads
  · rintro rfl
    exact isReading_ofText s

/-- A comma between two lists joins what they are read as. -/
theorem ofText_append (s t : List Char) :
    ofText (s ++ ',' :: t) = ⟨(ofText s).numbers ++ (ofText t).numbers,
      (ofText s).rejected ++ (ofText t).rejected⟩ := by
  simp only [ofText, tokens_append, List.filterMap_append, List.filter_append, List.map_append]

/-- A piece of a list as it may be written: perhaps a number, with white space around it. -/
structure Padded where
  before : List Char
  number : Option UInt32
  after : List Char
  before_blank : before.all isBlank = true
  after_blank : after.all isBlank = true

/-- The text of a piece, with its number in decimal. -/
def Padded.text (p : Padded) : List Char :=
  p.before ++ (p.number.map fun n => Nat.toDigits 10 n.toNat).getD [] ++ p.after

theorem isDigit_of_mem_number {n : UInt32} {c : Char} (h : c ∈ Nat.toDigits 10 n.toNat) :
    c.isDigit = true :=
  Nat.isDigit_of_mem_toDigits (by decide) (by decide) h

theorem isNumeral_toDigits (n : UInt32) : IsNumeral (Nat.toDigits 10 n.toNat) n.toNat :=
  number?_eq_some_iff.1 (number?_toDigits n.toNat)

theorem comma_notMem_text (p : Padded) : ',' ∉ p.text := by
  have notBlank : ∀ {s : List Char}, s.all isBlank = true → ',' ∉ s := by
    intro s blank mem
    exact absurd (List.all_eq_true.1 blank ',' mem) (by decide)
  obtain ⟨before, number, after, before_blank, after_blank⟩ := p
  rw [Padded.text, List.mem_append, List.mem_append, not_or, not_or]
  refine ⟨⟨notBlank before_blank, ?_⟩, notBlank after_blank⟩
  cases number with
  | none => simp
  | some n =>
    intro mem
    exact absurd (isDigit_of_mem_number mem) (by decide)

theorem reads_padded (ps : List Padded) :
    Reads (ps.map Padded.text) ⟨ps.filterMap Padded.number, []⟩ := by
  induction ps with
  | nil => exact .done
  | cons p ps ih =>
    obtain ⟨before, number, after, before_blank, after_blank⟩ := p
    cases number with
    | none =>
      refine .blank ?_ ih
      simp [Padded.text, before_blank, after_blank]
    | some n =>
      have notBlank : ∀ c ∈ Nat.toDigits 10 n.toNat, isBlank c = false :=
        fun _ mem => isBlank_of_isDigit (isDigit_of_mem_number mem)
      have isNumber := Reads.number (isTrimmed_of_notBlank before_blank after_blank notBlank)
        (isNumeral_toDigits n) n.toNat_lt ih
      rwa [UInt32.ofNat_toNat] at isNumber

/-- **The numbers that were written come back**, and nothing is rejected. -/
theorem ofText_padded (ps : List Padded) :
    ofText ([','].intercalate (ps.map Padded.text)) = ⟨ps.filterMap Padded.number, []⟩ := by
  by_cases empty : ps = []
  · subst empty
    rfl
  · have noComma : ∀ piece ∈ ps.map Padded.text, ',' ∉ piece := by
      intro piece mem
      obtain ⟨p, -, rfl⟩ := List.mem_map.1 mem
      exact comma_notMem_text p
    rw [ofText_eq, List.splitOn_intercalate ',' noComma (by simpa using empty)]
    exact reads_iff.1 (reads_padded ps)

/-- Numbers in decimal with commas between them, and nothing else, come back. -/
theorem ofText_numbers (numbers : List UInt32) :
    ofText ([','].intercalate (numbers.map fun n => Nat.toDigits 10 n.toNat)) = ⟨numbers, []⟩ := by
  have bare := ofText_padded (numbers.map fun n => ⟨[], some n, [], rfl, rfl⟩)
  simp only [List.map_map, List.filterMap_map] at bare
  simpa [Function.comp_def, Padded.text] using bare

/-- The first line of a probe ends with a list of line numbers, which is read as the lines at which
the probe fires. -/
theorem exists_list_of_probeLine (r : Instrumentation) :
    ∃ list : String, Script.probeLine r
        = "jprobe:" ++ r.baseName ++ ":uc" ++ toString r.core.toNat ++ ":line" ++ list ∧
      ofText list.toList = ⟨r.lines, []⟩ := by
  refine ⟨_, rfl, ?_⟩
  have list := ofText_numbers r.lines
  simpa [String.toList_intercalate, Nat.toString_eq_repr, Nat.toList_repr, Function.comp_def]
    using list

/-- **Reading a list of line numbers** gives what its pieces say.  A comma between two lists joins
what they are read as.  The numbers of a list that was written come back, whatever white space is
around them and whatever blank pieces are between them; so do those in the first line of a probe. -/
theorem ofText_exact :
    (∀ s list, IsReading s list ↔ ofText s = list) ∧
    (∀ s t, ofText (s ++ ',' :: t) = ⟨(ofText s).numbers ++ (ofText t).numbers,
      (ofText s).rejected ++ (ofText t).rejected⟩) ∧
    (∀ ps : List Padded,
      ofText ([','].intercalate (ps.map Padded.text)) = ⟨ps.filterMap Padded.number, []⟩) ∧
    ∀ r : Instrumentation, ∃ list : String, Script.probeLine r
        = "jprobe:" ++ r.baseName ++ ":uc" ++ toString r.core.toNat ++ ":line" ++ list ∧
      ofText list.toList = ⟨r.lines, []⟩ :=
  ⟨fun _ _ => isReading_iff, ofText_append, ofText_padded, exists_list_of_probeLine⟩

/-- White space and blank pieces do not matter, a plus sign is read, and what is no number of 32
bits is rejected as it stands. -/
example : ofText " 4294967295,\t,+07\u3000, 4294967296,-0,1 2 ".toList
    = ⟨[4294967295, 7], ["4294967296", "-0", "1 2"]⟩ := by
  decide

end LineList

end CounterTrace
