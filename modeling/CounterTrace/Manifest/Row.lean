import CounterTrace.Manifest.Field
import CounterTrace.Manifest.LineList
import CounterTrace.Program.Record

/-!
# Manifest rows

A row has three fields: a directory, the file of a control program, and the lines at which
to sample.  A row of another shape is malformed.  A row whose file is not that of a control
program is refused; the tokens of its line list are judged all the same.
-/

namespace CounterTrace.Manifest

open Program (Refusal)

/-- How many fields a row has. -/
def fieldCount : Nat := 3

/-- What a row of text comes to. -/
inductive Row where
  /-- The row has another number of fields. -/
  | malformed (fields : Nat)
  /-- The file is not that of a control program. -/
  | refused (fileName : String) (rejected : List String) (reason : Refusal)
  /-- The row gives a record, perhaps less some tokens that are no line numbers. -/
  | accepted (record : Record) (rejected : List String)
deriving DecidableEq, Repr

namespace Row

/-- Reads a row of three fields. -/
def ofFields (directory fileName : String) (list : LineList) : Row :=
  match Record.ofFile directory fileName (list.numbers.map fun n => ⟨n, noIndex⟩) with
  | .ok record => .accepted record list.rejected
  | .error reason => .refused fileName list.rejected reason

/-- Reads a row. -/
def ofLine (line : List Char) : Row :=
  match fields line with
  | [directory, fileName, list] =>
    ofFields (String.ofList directory) (String.ofList fileName) (LineList.ofText list)
  | fs => .malformed fs.length

/-- The record of a row that gives one. -/
def record? : Row → Option Record
  | .accepted record _ => some record
  | _ => none

/-- Whether the row has the wrong number of fields. -/
def isMalformed : Row → Bool
  | .malformed _ => true
  | _ => false

/-- Whether the row's file is not that of a control program. -/
def isRefused : Row → Bool
  | .refused _ _ _ => true
  | _ => false

/-- The tokens of the row's line list that are no line numbers. -/
def rejected : Row → List String
  | .malformed _ => []
  | .refused _ rejected _ => rejected
  | .accepted _ rejected => rejected

end Row

/-- Something wrong with a row, and the line it stands on. -/
inductive Warning where
  /-- The row has the wrong number of fields. -/
  | invalidRow (line fields : Nat)
  /-- A token of the line list is no line number. -/
  | invalidLineNumber (line : Nat) (token fileName : String)
  /-- The row's file is not that of a control program. -/
  | skippedRow (line : Nat) (reason : Refusal)
deriving DecidableEq, Repr

/-- The warnings of a row that stands on the given line: first one a rejected token, then
the one that says why there is no record. -/
def Row.warnings (line : Nat) : Row → List Warning
  | .malformed fields => [.invalidRow line fields]
  | .refused fileName rejected reason =>
    rejected.map (.invalidLineNumber line · fileName) ++ [.skippedRow line reason]
  | .accepted record rejected => rejected.map (.invalidLineNumber line · record.fileName)

/-- A row gives no warning exactly if it gives a record and no token is rejected. -/
theorem Row.warnings_eq_nil_iff (line : Nat) (row : Row) :
    row.warnings line = [] ↔ row.record?.isSome = true ∧ row.rejected = [] := by
  cases row <;> simp [warnings, record?, rejected]

/-- Only a row whose number of fields is wrong is malformed. -/
theorem Row.isMalformed_ofLine (line : List Char) :
    (ofLine line).isMalformed = !decide ((fields line).length = fieldCount) := by
  unfold ofLine
  split
  · rename_i directory fileName list h
    unfold ofFields
    split <;> simp [isMalformed, h, fieldCount]
  · rename_i fs h
    have other : (fields line).length ≠ fieldCount := by
      cases e : fields line with
      | nil => simp [fieldCount]
      | cons a as =>
        match as, e with
        | [], _ => simp [fieldCount]
        | [_], _ => simp [fieldCount]
        | [b, c], e => exact absurd e (h a b c)
        | _ :: _ :: _ :: _, _ => simp [fieldCount]
    simp [isMalformed, other]

end CounterTrace.Manifest
