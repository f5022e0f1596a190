import CounterTrace.Manifest.Basic

/-!
# Where the rows of a manifest go

Every line after the first that is not blank is a row.  It gives a record, or it does not have
three fields, or its file is not that of a control program, and never two of these.  Here the
statistics and the records of a manifest are told from its lines alone.
-/

namespace CounterTrace.Manifest

open Text

/-- The lines of a text that are rows: those after the first that are not blank throughout. -/
def bodyLines (text : String) : List (List Char) :=
  ((lines text.toList).drop 1).filter fun line => !line.all isBlank

/-- The rows are those of the lines, in their order. -/
theorem map_fst_rows (text : String) :
    (rows text).map Prod.fst = (bodyLines text).map Row.ofLine := by
  have places : (((lines text.toList).zipIdx 1).drop 1).map Prod.fst
      = (lines text.toList).drop 1 := by
    rw [List.map_drop, List.zipIdx_map_fst]
  rw [bodyLines, ← places, List.filter_map, rows, dataLines, List.map_map, List.map_map]
  rfl

/-- The fields of a line that has three. -/
structure Parts where
  directory : String
  fileName : String
  /-- The list of line numbers, as it is written. -/
  list : List Char
deriving DecidableEq, Repr

namespace Parts

/-- The fields of a line, if there are three. -/
def ofLine? (line : List Char) : Option Parts :=
  match fields line with
  | [directory, fileName, list] => some ⟨String.ofList directory, String.ofList fileName, list⟩
  | _ => none

/-- The points that the list gives. -/
def points (p : Parts) : List ProbePoint :=
  (LineList.ofText p.list).numbers.map fun n => ⟨n, noIndex⟩

/-- The record of the fields, or why there is none. -/
def record (p : Parts) : Except Program.Refusal Record :=
  Record.ofFile p.directory p.fileName p.points

end Parts

/-- A line with three fields gives a record or is refused, and any other is malformed. -/
theorem ofLine_eq (line : List Char) :
    Row.ofLine line =
      match Parts.ofLine? line with
      | none => .malformed (fields line).length
      | some p =>
        match p.record with
        | .error reason => .refused p.fileName (LineList.ofText p.list).rejected reason
        | .ok record => .accepted record (LineList.ofText p.list).rejected := by
  rw [Row.ofLine, Parts.ofLine?]
  split
  · simp only [Row.ofFields, Parts.record, Parts.points]
    split <;> simp_all
  · simp only

theorem record?_ofLine (line : List Char) :
    (Row.ofLine line).record? = (Parts.ofLine? line).bind fun p => p.record.toOption := by
  rw [ofLine_eq]
  cases Parts.ofLine? line with
  | none => rfl
  | some p => cases h : p.record <;> simp [Row.record?, h, Except.toOption]

theorem isRefused_ofLine (line : List Char) :
    (Row.ofLine line).isRefused = (Parts.ofLine? line).any fun p => !p.record.isOk := by
  rw [ofLine_eq]
  cases Parts.ofLine? line with
  | none => rfl
  | some p => cases h : p.record <;> simp [Row.isRefused, h, Except.isOk, Except.toBool]

theorem rejected_ofLine (line : List Char) :
    (Row.ofLine line).rejected
      = ((Parts.ofLine? line).map fun p => (LineList.ofText p.list).rejected).getD [] := by
  rw [ofLine_eq]
  cases Parts.ofLine? line with
  | none => rfl
  | some p => cases h : p.record <;> simp [Row.rejected, h]

/-- The fields of the lines that have three. -/
def lineParts (text : String) : List Parts :=
  (bodyLines text).filterMap Parts.ofLine?

/-- A manifest accounts for every line of a text. -/
structure Accounts (text : String) (m : Manifest) : Prop where
  /-- Every line is a row. -/
  rows : m.stats.rows = (bodyLines text).length
  /-- Every row gives a record, or is malformed, or is refused. -/
  total : m.stats.rows = m.records.length + m.stats.malformed + m.stats.refused
  skipped : m.stats.skipped = m.stats.rows - m.records.length
  /-- The malformed rows are those that do not have three fields. -/
  malformed : m.stats.malformed
    = (bodyLines text).countP fun line => decide ((fields line).length ≠ 3)
  /-- The refused rows are those with three fields that give no record. -/
  refused : m.stats.refused = (lineParts text).countP fun p => !p.record.isOk
  /-- Tokens are rejected in every row with three fields, whether it gives a record or not. -/
  rejected : m.stats.rejected
    = ((lineParts text).flatMap fun p => (LineList.ofText p.list).rejected).length
  /-- The records are those of the rows, in ascending number of their programs. -/
  records : IsStableSort (fun r => r.id.val)
    ((lineParts text).filterMap fun p => p.record.toOption) m.records

theorem countP_isMalformed (ls : List (List Char)) :
    (ls.map Row.ofLine).countP Row.isMalformed
      = ls.countP fun line => decide ((fields line).length ≠ 3) := by
  rw [List.countP_map]
  refine List.countP_congr fun line _ => ?_
  rw [Function.comp_apply, Row.isMalformed_ofLine, fieldCount, decide_not]

theorem countP_isRefused (ls : List (List Char)) :
    (ls.map Row.ofLine).countP Row.isRefused
      = (ls.filterMap Parts.ofLine?).countP fun p => !p.record.isOk := by
  rw [List.countP_map, List.countP_filterMap]
  refine List.countP_congr fun line _ => ?_
  rw [Function.comp_apply, isRefused_ofLine]
  cases Parts.ofLine? line <;> simp

theorem flatMap_rejected (ls : List (List Char)) :
    (ls.map Row.ofLine).flatMap Row.rejected
      = (ls.filterMap Parts.ofLine?).flatMap fun p => (LineList.ofText p.list).rejected := by
  induction ls with
  | nil => rfl
  | cons line ls ih =>
    rw [List.map_cons, List.flatMap_cons, ih, rejected_ofLine, List.filterMap_cons]
    cases Parts.ofLine? line with
    | none => rfl
    | some p => rw [List.flatMap_cons, Option.map_some, Option.getD_some]

theorem filterMap_record? (ls : List (List Char)) :
    (ls.map Row.ofLine).filterMap Row.record?
      = (ls.filterMap Parts.ofLine?).filterMap fun p => p.record.toOption := by
  rw [List.filterMap_map, List.filterMap_filterMap]
  congr 1
  funext line
  exact record?_ofLine line

/-- **Reading accounts for every line**: no row is lost, and none is counted twice. -/
theorem accounts_ofText (text : String) : Accounts text (ofText text) := by
  have nothingLost := length_records_add_skipped ((bodyLines text).map Row.ofLine)
  rw [Stats.skipped] at nothingLost
  rw [ofText, map_fst_rows]
  constructor
  case rows => simp only [ofRows, List.length_map]
  case total => omega
  case skipped =>
    rw [Stats.skipped]
    omega
  case malformed => exact countP_isMalformed _
  case refused => exact countP_isRefused _
  case rejected => exact congrArg List.length (flatMap_rejected _)
  case records =>
    rw [ofRows, filterMap_record?]
    exact isStableSort_sortBy _ _

/-- A blank line is no row, and a token is rejected even where the file is refused. -/
example : (ofText ("header\n/d,aie_runtime_control1.asm,\"5,x\"\n \n/d,other.asm,y\n"
    ++ "/d,aie_runtime_control0.asm\n")).stats = ⟨3, 1, 1, 2⟩ := by
  decide

end CounterTrace.Manifest
