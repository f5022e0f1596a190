import CounterTrace.Path
import CounterTrace.Program.Name

/-!
# Control programs and their probe points

A control program runs on one micro controller, which serves four columns of the array.
Its number fixes both: program `n` runs on controller `4 * n` and owns the columns from
`4 * n` to `4 * n + 3`.

A script is written from plain numbers, whatever they are (`Instrumentation`).  A record keeps the
number of its program only, and gives those that follow from it.
-/

namespace CounterTrace

/-- How many columns a control program owns. -/
def columnsPerProgram : Nat := 4

/-- The number of a control program whose columns are all numbers of 32 bits. -/
structure ProgramId where
  val : Nat
  /-- The program's last column is a number of 32 bits. -/
  fits : columnsPerProgram * val + (columnsPerProgram - 1) < UInt32.size
deriving DecidableEq, Repr

namespace ProgramId

/-- The micro controller that runs the program. -/
def core (id : ProgramId) : Nat :=
  columnsPerProgram * id.val

/-- The first column the program owns. -/
def firstColumn (id : ProgramId) : Nat :=
  columnsPerProgram * id.val

/-- The last column the program owns. -/
def lastColumn (id : ProgramId) : Nat :=
  id.firstColumn + (columnsPerProgram - 1)

/-- A column lies in a program's range exactly if its quotient by four is the program's
number. -/
theorem mem_columns_iff (id : ProgramId) (column : Nat) :
    id.firstColumn ≤ column ∧ column ≤ id.lastColumn ↔ column / columnsPerProgram = id.val := by
  simp only [firstColumn, lastColumn, columnsPerProgram]
  omega

end ProgramId

/-- The index of a probe point for which none is given. -/
def noIndex : Int32 := -1

/-- A line of a control program at which counters are sampled. -/
structure ProbePoint where
  /-- The line of the program's text. -/
  line : UInt32
  /-- An index that further tells points of one line apart. -/
  index : Int32 := noIndex
deriving DecidableEq, Repr

/-- What a script is told of a control program: where it is, its numbers, and where to sample.
Nothing is asked of the numbers. -/
structure Instrumentation where
  /-- The directory the program was built in. -/
  directory : String
  /-- The program's file, as the manifest gives it. -/
  fileName : String
  /-- The number of the program. -/
  number : UInt32
  /-- The micro controller that the probes are attached to. -/
  core : UInt32
  /-- The first column whose counters are sampled. -/
  firstColumn : UInt32
  /-- The last column whose counters are sampled. -/
  lastColumn : UInt32
  /-- Where to sample, in the manifest's order. -/
  points : List ProbePoint
deriving DecidableEq, Repr

namespace Instrumentation

/-- The file name without the directories before it. -/
def baseName (i : Instrumentation) : String :=
  Path.baseName i.fileName

/-- The lines at which to sample. -/
def lines (i : Instrumentation) : List UInt32 :=
  i.points.map ProbePoint.line

/-- Whether there is anything to sample. -/
def hasPoints (i : Instrumentation) : Bool :=
  !i.points.isEmpty

/-- The numbers are those of a control program. -/
structure IsOf (i : Instrumentation) (id : ProgramId) : Prop where
  number : i.number.toNat = id.val
  core : i.core.toNat = id.core
  firstColumn : i.firstColumn.toNat = id.firstColumn
  lastColumn : i.lastColumn.toNat = id.lastColumn

end Instrumentation

/-- A control program and its probe points.  The program's number gives all of its numbers. -/
structure Record where
  /-- The directory the program was built in. -/
  directory : String
  /-- The program's file, as the manifest gives it. -/
  fileName : String
  id : ProgramId
  /-- Where to sample, in the manifest's order. -/
  points : List ProbePoint
deriving DecidableEq, Repr

namespace Record

/-- What a script is told of a record. -/
def instrumentation (r : Record) : Instrumentation where
  directory := r.directory
  fileName := r.fileName
  number := UInt32.ofNat r.id.val
  core := UInt32.ofNat r.id.core
  firstColumn := UInt32.ofNat r.id.firstColumn
  lastColumn := UInt32.ofNat r.id.lastColumn
  points := r.points

/-- The file name without the directories before it. -/
def baseName (r : Record) : String :=
  r.instrumentation.baseName

/-- Whether there is anything to sample. -/
def hasPoints (r : Record) : Bool :=
  r.instrumentation.hasPoints

/-- The record of a program's file.  The number comes from the file name; a number whose
columns would not be of 32 bits is refused, and then named in plain decimal. -/
def ofFile (directory fileName : String) (points : List ProbePoint) :
    Except Program.Refusal Record :=
  match Program.number fileName with
  | .error refusal => .error refusal
  | .ok n =>
    if fits : columnsPerProgram * n.toNat + (columnsPerProgram - 1) < UInt32.size then
      .ok { directory, fileName, id := ⟨n.toNat, fits⟩, points }
    else .error (.outOfRange (toString n.toNat))

/-- A record is made exactly of the parts it is made from, under the number in its name. -/
theorem ofFile_eq_ok_iff {directory fileName : String} {points : List ProbePoint} {r : Record} :
    ofFile directory fileName points = .ok r ↔
      Program.number fileName = .ok (UInt32.ofNat r.id.val) ∧ r.directory = directory ∧
        r.fileName = fileName ∧ r.points = points := by
  unfold ofFile
  have small : r.id.val < UInt32.size := by
    have := r.id.fits
    simp only [columnsPerProgram, UInt32.size] at this ⊢
    omega
  cases h : Program.number fileName with
  | error e => simp
  | ok n =>
    obtain ⟨d, f, ⟨m, hm⟩, ps⟩ := r
    by_cases fits : columnsPerProgram * n.toNat + (columnsPerProgram - 1) < UInt32.size
    · simp only [fits, dite_true, Except.ok.injEq, Record.mk.injEq, ProgramId.mk.injEq]
      constructor
      · rintro ⟨rfl, rfl, rfl, rfl⟩
        simp
      · rintro ⟨rfl, rfl, rfl, rfl⟩
        simp only [UInt32.toNat_ofNat', true_and, and_true]
        exact Nat.mod_eq_of_lt small
    · simp only [fits, dite_false, reduceCtorEq, Except.ok.injEq, false_iff]
      rintro ⟨rfl, -, -, -⟩
      apply fits
      rw [UInt32.toNat_ofNat', Nat.mod_eq_of_lt small]
      exact hm

theorem hasPoints_eq (r : Record) : r.hasPoints = !r.points.isEmpty := rfl

/-- What a script is told of a record are the numbers of its program, for they all have 32 bits. -/
theorem isOf_instrumentation (r : Record) : r.instrumentation.IsOf r.id := by
  have fits := r.id.fits
  simp only [columnsPerProgram, UInt32.size] at fits
  constructor <;>
    simp only [instrumentation, ProgramId.core, ProgramId.firstColumn, ProgramId.lastColumn,
      columnsPerProgram, UInt32.toNat_ofNat'] <;>
    omega

/-- A record that is made of a file has the numbers of the program that the file names, and none
of them goes beyond 32 bits. -/
theorem instrumentation_of_ofFile {directory fileName : String} {points : List ProbePoint}
    {n : UInt32} {r : Record} (named : Program.number fileName = .ok n)
    (made : ofFile directory fileName points = .ok r) :
    4 * n.toNat + 3 < UInt32.size ∧
      r.instrumentation = ⟨directory, fileName, n, 4 * n, 4 * n, 4 * n + 3, points⟩ := by
  obtain ⟨number, rfl, rfl, rfl⟩ := ofFile_eq_ok_iff.1 made
  obtain rfl : n = UInt32.ofNat r.id.val := by simpa [named] using number
  have fits := r.id.fits
  simp only [columnsPerProgram, UInt32.size] at fits ⊢
  have small : (UInt32.ofNat r.id.val).toNat = r.id.val := r.isOf_instrumentation.number
  refine ⟨by omega, ?_⟩
  have first : UInt32.ofNat (4 * r.id.val) = 4 * UInt32.ofNat r.id.val := by
    rw [UInt32.ofNat_mul]
    rfl
  have last : UInt32.ofNat (4 * r.id.val + 3) = 4 * UInt32.ofNat r.id.val + 3 := by
    rw [UInt32.ofNat_add, first]
    rfl
  simp only [instrumentation, ProgramId.core, ProgramId.lastColumn, ProgramId.firstColumn,
    columnsPerProgram, first, last]

end Record

end CounterTrace
