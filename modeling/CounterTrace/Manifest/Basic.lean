import CounterTrace.Manifest.Row
import CounterTrace.StableSort
import CounterTrace.Text.Line

/-!
# Manifests

A manifest lists control programs, a row each, under a header line.  Blank lines are
skipped but counted in the line numbers.  Rows that give no record are skipped too; the
statistics say how many and why.  All of this is gathered while going through the lines once.
-/

namespace CounterTrace

open Text

/-- Counts of the rows of a manifest. -/
structure Manifest.Stats where
  /-- The rows that are not blank. -/
  rows : Nat
  /-- The rows with the wrong number of fields. -/
  malformed : Nat
  /-- The rows whose file is not that of a control program. -/
  refused : Nat
  /-- The tokens that are no line numbers, in rows of three fields. -/
  rejected : Nat
deriving DecidableEq, Repr

/-- How many rows give no record. -/
def Manifest.Stats.skipped (s : Manifest.Stats) : Nat :=
  s.malformed + s.refused

/-- The control programs of a manifest. -/
structure Manifest where
  /-- The records, in ascending number of the program; where numbers are equal, in the order
  of the text. -/
  records : List Record
  /-- What was read. -/
  stats : Manifest.Stats
deriving DecidableEq, Repr

namespace Manifest

/-- The manifest of some rows. -/
def ofRows (rows : List Row) : Manifest where
  records := sortBy (fun a b => decide (a.id.val ≤ b.id.val)) (rows.filterMap Row.record?)
  stats :=
    { rows := rows.length
      malformed := rows.countP Row.isMalformed
      refused := rows.countP Row.isRefused
      rejected := (rows.flatMap Row.rejected).length }

/-- The lines of a text that are rows, each with its place: all but the header and the blank
ones.  Places are counted from one. -/
def dataLines (text : List Char) : List (List Char × Nat) :=
  (((lines text).zipIdx 1).drop 1).filter fun line => !line.1.all isBlank

/-- The rows of a text and their places. -/
def rows (text : String) : List (Row × Nat) :=
  (dataLines text.toList).map fun line => (Row.ofLine line.1, line.2)

/-- Reads a manifest. -/
def ofText (text : String) : Manifest :=
  ofRows ((rows text).map Prod.fst)

/-- What reading a manifest complains about, in the order of the text. -/
def warnings (text : String) : List Warning :=
  (rows text).flatMap fun row => row.1.warnings row.2

/-- How far a manifest has been read: the records in the order of the text, what was counted, and
what there was to complain about. -/
structure Progress where
  records : List Record := []
  stats : Stats := ⟨0, 0, 0, 0⟩
  warnings : List Warning := []

namespace Progress

/-- Takes up a row. -/
def push (p : Progress) (row : Row) (line : Nat) : Progress :=
  let counted := { p.stats with
    rows := p.stats.rows + 1
    rejected := p.stats.rejected + row.rejected.length }
  let warnings := p.warnings ++ row.warnings line
  match row with
  | .malformed _ =>
    { p with stats := { counted with malformed := counted.malformed + 1 }, warnings }
  | .refused _ _ _ =>
    { p with stats := { counted with refused := counted.refused + 1 }, warnings }
  | .accepted record _ => { records := p.records ++ [record], stats := counted, warnings }

/-- Reads a line that has the given place.  A blank one is passed over. -/
def readLine (p : Progress) (line : List Char × Nat) : Progress :=
  if line.1.all isBlank then p else p.push (Row.ofLine line.1) line.2

/-- The manifest, once all lines have been read. -/
def manifest (p : Progress) : Manifest where
  records := sortBy (fun a b => decide (a.id.val ≤ b.id.val)) p.records
  stats := p.stats

end Progress

/-- Whether there is no control program. -/
def isEmpty (m : Manifest) : Bool :=
  m.records.isEmpty

/-- How many probe points there are in all records. -/
def pointCount (m : Manifest) : Nat :=
  (m.records.flatMap Record.points).length

/-- Each row is a record, malformed or refused. -/
theorem length_records_add_skipped (rows : List Row) :
    (ofRows rows).records.length + (ofRows rows).stats.skipped = (ofRows rows).stats.rows := by
  simp only [ofRows, length_sortBy, Stats.skipped]
  induction rows with
  | nil => rfl
  | cons row rows ih =>
    cases row <;>
      simp [List.filterMap_cons, Row.record?, Row.isMalformed, Row.isRefused, List.countP_cons] <;>
      omega

/-- There is nothing to complain about exactly if no row has a warning. -/
theorem warnings_eq_nil_iff (text : String) : warnings text = [] ↔
    ∀ row ∈ (rows text).map Prod.fst, row.record?.isSome = true ∧ row.rejected = [] := by
  simp only [warnings, List.flatMap_eq_nil_iff, List.forall_mem_map, Row.warnings_eq_nil_iff]

/-- What one row adds is what it comes to by itself. -/
theorem Progress.push_eq (p : Progress) (row : Row) (line : Nat) : p.push row line =
    { records := p.records ++ row.record?.toList
      stats :=
        { rows := p.stats.rows + 1
          malformed := p.stats.malformed + row.isMalformed.toNat
          refused := p.stats.refused + row.isRefused.toNat
          rejected := p.stats.rejected + row.rejected.length }
      warnings := p.warnings ++ row.warnings line } := by
  cases row <;> simp [push, Row.record?, Row.isMalformed, Row.isRefused]

/-- What rows add one after the other. -/
theorem Progress.foldl_push (p : Progress) (rows : List (Row × Nat)) :
    rows.foldl (fun p row => p.push row.1 row.2) p =
      { records := p.records ++ (rows.map Prod.fst).filterMap Row.record?
        stats :=
          { rows := p.stats.rows + rows.length
            malformed := p.stats.malformed + (rows.map Prod.fst).countP Row.isMalformed
            refused := p.stats.refused + (rows.map Prod.fst).countP Row.isRefused
            rejected := p.stats.rejected + ((rows.map Prod.fst).flatMap Row.rejected).length }
        warnings := p.warnings ++ rows.flatMap fun row => row.1.warnings row.2 } := by
  induction rows generalizing p with
  | nil => simp
  | cons row rows ih =>
    obtain ⟨row, line⟩ := row
    rw [List.foldl_cons, ih, push_eq, mk.injEq, Stats.mk.injEq]
    refine ⟨?_, ⟨?_, ?_, ?_, ?_⟩, ?_⟩
    · cases h : row.record? <;> simp [h]
    · simp only [List.length_cons]
      omega
    · cases h : row.isMalformed <;> simp [h]
      omega
    · cases h : row.isRefused <;> simp [h]
      omega
    · simp only [List.map_cons, List.flatMap_cons, List.length_append]
      omega
    · rw [List.flatMap_cons, List.append_assoc]

/-- **A manifest is read line by line**: each line below the header is taken up behind those before
it, and in the end the records are sorted. -/
theorem foldl_readLine (text : String) :
    let read := (((lines text.toList).zipIdx 1).drop 1).foldl Progress.readLine {}
    read.manifest = ofText text ∧ read.warnings = warnings text := by
  have rows_eq : (((lines text.toList).zipIdx 1).drop 1).foldl Progress.readLine {}
      = (rows text).foldl (fun p row => p.push row.1 row.2) {} := by
    rw [rows, dataLines, List.foldl_map, List.foldl_filter]
    congr 1
    funext p line
    simp only [Progress.readLine]
    cases line.1.all isBlank <;> rfl
  simp only [rows_eq, Progress.foldl_push]
  simp [Progress.manifest, ofText, ofRows, warnings]

end Manifest

end CounterTrace
