import CounterTrace.Proofs.RowCounts
import Mathlib.Data.List.Basic

/-!
# What the warnings tell

Reading a manifest warns of a row without three fields, of a token that is no line number and of a
row that is refused, and of nothing else.  The warnings come in the order of the lines, each names
its line, and there are as many of each kind as the statistics say.  So no warning means that
nothing was left out.
-/

namespace CounterTrace.Manifest

open Program (Refusal)
open Text

/-- The line of a number, counted from one. -/
def lineAt (text : String) (n : Nat) : List Char :=
  (lines text.toList).getD (n - 1) []

/-- The numbers of the lines that are rows: from the second line on, those that are not blank
throughout. -/
def rowNumbers (text : String) : List Nat :=
  (List.range' 2 ((lines text.toList).length - 1)).filter fun n => !(lineAt text n).all isBlank

/-- The rows with three fields, each with its number. -/
def numberedParts (text : String) : List (Nat × Parts) :=
  (rowNumbers text).filterMap fun n => (Parts.ofLine? (lineAt text n)).map fun p => (n, p)

variable {text : String} {n : Nat}

theorem drop_zipIdx_lines (text : String) : ((lines text.toList).zipIdx 1).drop 1
    = (List.range' 2 ((lines text.toList).length - 1)).map fun n => (lineAt text n, n) := by
  have numbered : (lines text.toList).zipIdx 1
      = (List.range' 1 (lines text.toList).length).map fun n => (lineAt text n, n) := by
    refine List.ext_getElem (by simp) ?_
    intro i inside inside'
    rw [List.length_zipIdx] at inside
    simp [lineAt, inside]
  rw [numbered, ← List.map_drop, List.drop_range']

theorem dataLines_eq (text : String) :
    dataLines text.toList = (rowNumbers text).map fun n => (lineAt text n, n) := by
  rw [dataLines, drop_zipIdx_lines, List.filter_map, rowNumbers]
  rfl

theorem bodyLines_eq (text : String) : bodyLines text = (rowNumbers text).map (lineAt text) := by
  have body : (lines text.toList).drop 1
      = (List.range' 2 ((lines text.toList).length - 1)).map (lineAt text) := by
    have numbers := congrArg (List.map Prod.fst) (drop_zipIdx_lines text)
    rwa [List.map_drop, List.zipIdx_map_fst, List.map_map] at numbers
  rw [bodyLines, body, List.filter_map, rowNumbers]
  rfl

/-- Header and blank lines are no rows, and all other lines are. -/
theorem mem_rowNumbers : n ∈ rowNumbers text ↔
    2 ≤ n ∧ ∃ line, (lines text.toList)[n - 1]? = some line ∧ line.all isBlank = false := by
  rw [rowNumbers, List.mem_filter, List.mem_range'_1, Bool.not_eq_true', lineAt,
    List.getD_eq_getElem?_getD]
  constructor
  · rintro ⟨⟨lower, upper⟩, notBlank⟩
    have found := List.getElem?_eq_getElem (show n - 1 < (lines text.toList).length by omega)
    rw [found, Option.getD_some] at notBlank
    exact ⟨lower, _, found, notBlank⟩
  · rintro ⟨lower, line, found, notBlank⟩
    have inside := (List.getElem?_eq_some_iff.1 found).1
    rw [found, Option.getD_some]
    exact ⟨⟨lower, by omega⟩, notBlank⟩

theorem pairwise_rowNumbers (text : String) : (rowNumbers text).Pairwise (· < ·) :=
  (List.pairwise_lt_range' 1).filter _

namespace Warning

/-- The line that a warning names. -/
def line : Warning → Nat
  | .invalidRow line _ => line
  | .invalidLineNumber line _ _ => line
  | .skippedRow line _ => line

/-- Whether a warning is about the number of fields. -/
def isInvalidRow : Warning → Bool
  | .invalidRow _ _ => true
  | _ => false

/-- Whether a warning is about a token. -/
def isInvalidLineNumber : Warning → Bool
  | .invalidLineNumber _ _ _ => true
  | _ => false

/-- Whether a warning is about a file that is refused. -/
def isSkippedRow : Warning → Bool
  | .skippedRow _ _ => true
  | _ => false

end Warning

namespace Parts

/-- The tokens of the list that are no line numbers. -/
def rejected (p : Parts) : List String :=
  (LineList.ofText p.list).rejected

/-- Why there is no record. -/
def refusal? (p : Parts) : Option Refusal :=
  match p.record with
  | .ok _ => none
  | .error reason => some reason

theorem isNone_ofLine? (line : List Char) :
    (ofLine? line).isNone = !decide ((fields line).length = 3) := by
  have malformed := Row.isMalformed_ofLine line
  rw [fieldCount] at malformed
  rw [← malformed, ofLine_eq]
  cases ofLine? line with
  | none => rfl
  | some p => cases made : p.record <;> simp [made, Row.isMalformed]

theorem ofLine?_eq_none_iff {line : List Char} :
    ofLine? line = none ↔ (fields line).length ≠ 3 := by
  rw [← Option.isNone_iff_eq_none, isNone_ofLine?, Bool.not_eq_true', decide_eq_false_iff_not]

end Parts

/-- **What a row is warned of**: that it does not have three fields; or of its tokens, and then of
its file. -/
theorem warnings_ofLine (n : Nat) (line : List Char) : (Row.ofLine line).warnings n =
    match Parts.ofLine? line with
    | none => [.invalidRow n (fields line).length]
    | some p => p.rejected.map (.invalidLineNumber n · p.fileName)
      ++ (p.refusal?.map (Warning.skippedRow n)).toList := by
  rw [ofLine_eq]
  cases Parts.ofLine? line with
  | none => rfl
  | some p =>
    cases made : p.record with
    | error reason => simp [made, Row.warnings, Parts.rejected, Parts.refusal?]
    | ok record =>
      have sameFile := (Record.ofFile_eq_ok_iff.1 made).2.2.1
      simp [made, Row.warnings, Parts.rejected, Parts.refusal?, sameFile]

/-- The warnings are those of the rows, one row after the other. -/
theorem warnings_eq (text : String) :
    warnings text = (rowNumbers text).flatMap fun n => (Row.ofLine (lineAt text n)).warnings n := by
  rw [warnings, rows, dataLines_eq, List.map_map, List.flatMap_map]
  rfl

/-- A warning names the line of its row. -/
theorem line_of_mem_warnings {row : Row} {w : Warning} (h : w ∈ row.warnings n) : w.line = n := by
  cases row with
  | malformed fields =>
    rw [List.mem_singleton.1 h]
    rfl
  | refused fileName rejected reason =>
    rcases List.mem_append.1 h with isToken | isSkip
    · obtain ⟨token, -, rfl⟩ := List.mem_map.1 isToken
      rfl
    · rw [List.mem_singleton.1 isSkip]
      rfl
  | accepted record rejected =>
    obtain ⟨token, -, rfl⟩ := List.mem_map.1 h
    rfl

theorem filter_isInvalidRow (n : Nat) (line : List Char) :
    ((Row.ofLine line).warnings n).filter Warning.isInvalidRow =
      if (fields line).length ≠ 3 then [.invalidRow n (fields line).length] else [] := by
  rw [warnings_ofLine]
  cases split : Parts.ofLine? line with
  | none => rw [if_pos (Parts.ofLine?_eq_none_iff.1 split)]; rfl
  | some p =>
    have three : ¬ (fields line).length ≠ 3 := by
      rw [← Parts.ofLine?_eq_none_iff, split]
      simp
    rw [if_neg three]
    cases p.refusal? <;> simp [Warning.isInvalidRow]

theorem filter_isInvalidLineNumber (n : Nat) (line : List Char) :
    ((Row.ofLine line).warnings n).filter Warning.isInvalidLineNumber =
      ((Parts.ofLine? line).map fun p =>
        p.rejected.map (Warning.invalidLineNumber n · p.fileName)).getD [] := by
  rw [warnings_ofLine]
  cases Parts.ofLine? line with
  | none => rfl
  | some p =>
    have tokens : (p.rejected.map (Warning.invalidLineNumber n · p.fileName)).filter
        Warning.isInvalidLineNumber
          = p.rejected.map (Warning.invalidLineNumber n · p.fileName) := by
      rw [List.filter_eq_self, List.forall_mem_map]
      intro token _
      rfl
    cases p.refusal? <;> simp [tokens, Warning.isInvalidLineNumber]

theorem filter_isSkippedRow (n : Nat) (line : List Char) :
    ((Row.ofLine line).warnings n).filter Warning.isSkippedRow =
      (((Parts.ofLine? line).bind Parts.refusal?).map (Warning.skippedRow n)).toList := by
  rw [warnings_ofLine]
  cases Parts.ofLine? line with
  | none => rfl
  | some p =>
    have tokens : (p.rejected.map (Warning.invalidLineNumber n · p.fileName)).filter
        Warning.isSkippedRow = [] := by
      rw [List.filter_eq_nil_iff, List.forall_mem_map]
      intro token _
      simp [Warning.isSkippedRow]
    rw [List.filter_append, tokens]
    cases reason : p.refusal? <;> simp [reason, Warning.isSkippedRow]

theorem filter_isInvalidRow_warnings (text : String) :
    (warnings text).filter Warning.isInvalidRow
      = ((rowNumbers text).filter fun n => decide ((fields (lineAt text n)).length ≠ 3)).map
        fun n => .invalidRow n (fields (lineAt text n)).length := by
  rw [warnings_eq, List.filter_flatMap, ← List.filterMap_eq_map, List.filterMap_filter,
    List.filterMap_eq_flatMap_toList]
  refine List.flatMap_congr ?_
  intro n _
  rw [filter_isInvalidRow]
  by_cases three : (fields (lineAt text n)).length = 3 <;> simp [three]

theorem filter_isInvalidLineNumber_warnings (text : String) :
    (warnings text).filter Warning.isInvalidLineNumber
      = (numberedParts text).flatMap fun row =>
        row.2.rejected.map (Warning.invalidLineNumber row.1 · row.2.fileName) := by
  rw [warnings_eq, List.filter_flatMap, numberedParts, List.filterMap_eq_flatMap_toList,
    List.flatMap_assoc]
  refine List.flatMap_congr ?_
  intro n _
  rw [filter_isInvalidLineNumber]
  cases Parts.ofLine? (lineAt text n) <;> simp

theorem filter_isSkippedRow_warnings (text : String) :
    (warnings text).filter Warning.isSkippedRow
      = (numberedParts text).filterMap fun row =>
        row.2.refusal?.map (Warning.skippedRow row.1) := by
  rw [warnings_eq, List.filter_flatMap, numberedParts, List.filterMap_filterMap,
    List.filterMap_eq_flatMap_toList]
  refine List.flatMap_congr ?_
  intro n _
  rw [filter_isSkippedRow]
  cases Parts.ofLine? (lineAt text n) <;> rfl

/-- Forgetting the numbers leaves the fields of the lines. -/
theorem map_snd_numberedParts (text : String) :
    (numberedParts text).map Prod.snd = lineParts text := by
  rw [numberedParts, lineParts, bodyLines_eq, List.map_filterMap, List.filterMap_map]
  congr 1
  funext n
  cases h : Parts.ofLine? (lineAt text n) <;> simp [h]

theorem ofText_eq (text : String) : ofText text = ofRows ((bodyLines text).map Row.ofLine) := by
  rw [ofText, map_fst_rows]

theorem length_invalidRows (text : String) :
    ((warnings text).filter Warning.isInvalidRow).length = (ofText text).stats.malformed := by
  rw [filter_isInvalidRow_warnings, List.length_map, ← List.countP_eq_length_filter, ofText_eq,
    ofRows, countP_isMalformed, bodyLines_eq, List.countP_map]
  rfl

theorem length_invalidLineNumbers (text : String) :
    ((warnings text).filter Warning.isInvalidLineNumber).length
      = (ofText text).stats.rejected := by
  have stats : (ofText text).stats.rejected = ((lineParts text).flatMap Parts.rejected).length := by
    rw [ofText_eq]
    exact congrArg List.length (flatMap_rejected _)
  rw [stats, filter_isInvalidLineNumber_warnings, ← map_snd_numberedParts, List.flatMap_map]
  simp only [List.length_flatMap, List.length_map]

theorem length_skippedRows (text : String) :
    ((warnings text).filter Warning.isSkippedRow).length = (ofText text).stats.refused := by
  have stats : (ofText text).stats.refused
      = (lineParts text).countP fun p => !p.record.isOk := by
    rw [ofText_eq]
    exact countP_isRefused _
  rw [stats, filter_isSkippedRow_warnings, List.length_filterMap_eq_countP,
    ← map_snd_numberedParts, List.countP_map]
  congr 1
  funext row
  cases made : row.2.record <;> simp [made, Parts.refusal?, Except.isOk, Except.toBool]

/-- A row that is skipped is told of behind its tokens. -/
theorem pairwise_row_warnings (n : Nat) (row : Row) : (row.warnings n).Pairwise fun v w =>
    v.isSkippedRow = true → w.isInvalidLineNumber = false := by
  have tokens (fileName : String) (rejected : List String) :
      (rejected.map (Warning.invalidLineNumber n · fileName)).Pairwise fun v w =>
        v.isSkippedRow = true → w.isInvalidLineNumber = false := by
    rw [List.pairwise_map]
    refine List.pairwise_of_forall ?_
    intro _ _ isSkip
    cases isSkip
  cases row with
  | malformed fields => exact List.pairwise_singleton _ _
  | refused fileName rejected reason =>
    refine List.pairwise_append.2 ⟨tokens fileName rejected, List.pairwise_singleton _ _, ?_⟩
    intro v _ w isLast _
    rw [List.mem_singleton.1 isLast]
    rfl
  | accepted record rejected => exact tokens record.fileName rejected

/-- Warnings of a row and of a later row are told apart by their lines. -/
theorem pairwise_warnings {text : String} {R : Warning → Warning → Prop}
    (within : ∀ n row, (Row.warnings n row).Pairwise R)
    (across : ∀ v w : Warning, v.line < w.line → R v w) : (warnings text).Pairwise R := by
  rw [warnings_eq, List.pairwise_flatMap]
  refine ⟨fun n _ => within n _, (pairwise_rowNumbers text).imp ?_⟩
  intro m n less v first w second
  apply across
  rw [line_of_mem_warnings first, line_of_mem_warnings second]
  exact less

theorem fieldCount_of_mem_warnings {text : String} {n count : Nat}
    (h : Warning.invalidRow n count ∈ warnings text) : count ≠ 3 := by
  have kept : Warning.invalidRow n count ∈ (warnings text).filter Warning.isInvalidRow :=
    List.mem_filter.2 ⟨h, rfl⟩
  rw [filter_isInvalidRow_warnings, List.mem_map] at kept
  obtain ⟨m, isRow, same⟩ := kept
  have notThree := of_decide_eq_true (List.mem_filter.1 isRow).2
  cases same
  exact notThree

/-- A warning names a line that is a row. -/
theorem placed_of_mem_warnings {text : String} {w : Warning} (h : w ∈ warnings text) :
    2 ≤ w.line ∧
      ∃ line, (lines text.toList)[w.line - 1]? = some line ∧ line.all isBlank = false := by
  rw [warnings_eq, List.mem_flatMap] at h
  obtain ⟨n, isRow, inRow⟩ := h
  rw [line_of_mem_warnings inRow]
  exact mem_rowNumbers.1 isRow

/-- The records of a manifest are those of its rows. -/
theorem mem_records_ofText {text : String} {record : Record} :
    record ∈ (ofText text).records ↔
      ∃ n ∈ rowNumbers text, (Row.ofLine (lineAt text n)).record? = some record := by
  rw [ofText_eq, ofRows, mem_sortBy, bodyLines_eq, List.map_map, List.filterMap_map,
    List.mem_filterMap]
  rfl

/-- There are no warnings exactly if every row became a record and no token was rejected. -/
theorem warnings_eq_nil_iff_recorded (text : String) : warnings text = [] ↔
    ∀ n ∈ rowNumbers text, ∃ p, Parts.ofLine? (lineAt text n) = some p ∧
      (∃ record ∈ (ofText text).records, p.record = .ok record) ∧ p.rejected = [] := by
  rw [warnings_eq_nil_iff, map_fst_rows, bodyLines_eq, List.map_map, List.forall_mem_map]
  refine forall₂_congr fun n isRow => ?_
  have inRecords {record : Record}
      (made : (Row.ofLine (lineAt text n)).record? = some record) :
      record ∈ (ofText text).records := mem_records_ofText.2 ⟨n, isRow, made⟩
  rw [record?_ofLine] at inRecords
  rw [Function.comp_apply, record?_ofLine, rejected_ofLine]
  cases split : Parts.ofLine? (lineAt text n) with
  | none => simp
  | some p =>
    rw [split] at inRecords
    cases made : p.record with
    | error reason => simp [made, Except.toOption]
    | ok record =>
      have isRecord : record ∈ (ofText text).records := inRecords (by simp [made, Except.toOption])
      simp [made, isRecord, Except.toOption, Parts.rejected]

/-- The warnings that belong to what was read of a text. -/
structure IsLog (text : String) (m : Manifest) (log : List Warning) : Prop where
  /-- They come in the order of the lines. -/
  ascending : log.Pairwise fun v w => v.line ≤ w.line
  /-- One for each row that does not have three fields, with its line and its number of fields. -/
  invalidRows : log.filter Warning.isInvalidRow
    = ((rowNumbers text).filter fun n => decide ((fields (lineAt text n)).length ≠ 3)).map
      fun n => .invalidRow n (fields (lineAt text n)).length
  invalidRows_length : (log.filter Warning.isInvalidRow).length = m.stats.malformed
  invalidRows_ne : ∀ n count, Warning.invalidRow n count ∈ log → count ≠ 3
  /-- One for each token that is rejected, in the order of the tokens, with the line and the file
  of the row. -/
  invalidLineNumbers : log.filter Warning.isInvalidLineNumber
    = (numberedParts text).flatMap fun row =>
      row.2.rejected.map (Warning.invalidLineNumber row.1 · row.2.fileName)
  invalidLineNumbers_length :
    (log.filter Warning.isInvalidLineNumber).length = m.stats.rejected
  /-- One for each row with three fields that gives no record, with its line and with the reason,
  which has the wording of the error. -/
  skippedRows : log.filter Warning.isSkippedRow
    = (numberedParts text).filterMap fun row => row.2.refusal?.map (Warning.skippedRow row.1)
  skippedRows_length : (log.filter Warning.isSkippedRow).length = m.stats.refused
  /-- That a row is skipped is told behind what is told of its tokens. -/
  tokensFirst : log.Pairwise fun v w =>
    v.isSkippedRow = true → w.isInvalidLineNumber = true → v.line < w.line
  /-- The line that is named is not the header, and not blank. -/
  placed : ∀ w ∈ log, 2 ≤ w.line ∧
    ∃ line, (lines text.toList)[w.line - 1]? = some line ∧ line.all isBlank = false
  /-- There are none exactly if every row became a record and no token was rejected. -/
  silent : log = [] ↔ ∀ n ∈ rowNumbers text, ∃ p, Parts.ofLine? (lineAt text n) = some p ∧
    (∃ record ∈ m.records, p.record = .ok record) ∧ p.rejected = []

/-- **The warnings agree with what was read.** -/
theorem isLog_warnings (text : String) : IsLog text (ofText text) (warnings text) := by
  constructor
  case ascending =>
    apply pairwise_warnings
    · intro n row
      refine List.pairwise_of_forall_mem_list ?_
      intro v first w second
      exact Nat.le_of_eq ((line_of_mem_warnings first).trans (line_of_mem_warnings second).symm)
    · intro v w
      exact Nat.le_of_lt
  case invalidRows => exact filter_isInvalidRow_warnings text
  case invalidRows_length => exact length_invalidRows text
  case invalidRows_ne =>
    intro n count
    exact fieldCount_of_mem_warnings
  case invalidLineNumbers => exact filter_isInvalidLineNumber_warnings text
  case invalidLineNumbers_length => exact length_invalidLineNumbers text
  case skippedRows => exact filter_isSkippedRow_warnings text
  case skippedRows_length => exact length_skippedRows text
  case tokensFirst =>
    apply pairwise_warnings
    · intro n row
      refine (pairwise_row_warnings n row).imp ?_
      intro v w notToken isSkip isToken
      rw [notToken isSkip] at isToken
      cases isToken
    · intro v w less _ _
      exact less
  case placed =>
    intro w
    exact placed_of_mem_warnings
  case silent => exact warnings_eq_nil_iff_recorded text

/-- A row that is refused is told of behind its token, and the blank line counts. -/
example : warnings ("header\n/d,other.asm,\"5,x\"\n\n/d,aie_runtime_control1.asm\n")
    = [.invalidLineNumber 2 "x" "other.asm", .skippedRow 2 (.unmatched "other.asm"),
      .invalidRow 4 2] := by
  decide

end CounterTrace.Manifest
