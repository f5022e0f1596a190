import CounterTrace.Proofs.Literals

/-!
# What the lines of a script tell

Each line that is made from a counter, a group of counters or a record tells the parts it is made
from.  Numbers are told by their digits, values in literals by reading these, and what is between
them is the same for all.  The name of a control program stands on two lines as it is, where it
may have any characters; there the rest of the line is told once the name is known.
-/

namespace CounterTrace

open Text

theorem Tile.eq_of_toNat {t u : Tile} (column : t.column.toNat = u.column.toNat)
    (row : t.row.toNat = u.row.toNat) : t = u := by
  obtain ⟨c, r⟩ := t
  obtain ⟨c', r'⟩ := u
  rw [Tile.mk.injEq]
  exact ⟨UInt8.toNat_inj.1 column, UInt8.toNat_inj.1 row⟩

namespace Script

/-- What the list of all counters tells of a counter. -/
structure Entry where
  tile : Tile
  number : UInt8
  moduleName : String
  address : UInt64
  metricSet : Option String
  direction : Option Direction
deriving DecidableEq, Repr

/-- What the list of all counters tells of a counter: all but the kind of its module. -/
def Entry.ofDescriptor (d : Descriptor) : Entry :=
  ⟨d.tile, d.number, d.moduleName, d.address, d.metricSet, d.direction⟩

/-- The entry of a counter tells where the counter is. -/
theorem entryStart_append_inj {d e : Descriptor} {r s : List Char}
    (h : (entryStart d).toList ++ r = (entryStart e).toList ++ s) :
    d.tile = e.tile ∧ d.number = e.number := by
  unfold entryStart at h
  simp only [field, String.toList_append, List.append_assoc, List.append_cancel_left_eq] at h
  obtain ⟨column, h⟩ := toString_append_inj (by simp) (by simp) h
  simp only [List.append_cancel_left_eq] at h
  obtain ⟨row, h⟩ := toString_append_inj (by simp) (by simp) h
  simp only [List.append_cancel_left_eq] at h
  obtain ⟨number, -⟩ := toString_append_inj (by simp) (by simp) h
  exact ⟨Tile.eq_of_toNat column row, UInt8.toNat_inj.1 number⟩

theorem directionValues_inj {a b : Option Direction} (h : directionValues a = directionValues b) :
    a = b := by
  rcases a with _ | (_ | _) <;> rcases b with _ | (_ | _) <;>
    first | rfl | exact absurd h (by decide)

/-- Where there is no metric set, a direction does not pass for one. -/
theorem directionValues_ne_metricSetValues (direction : Option Direction) (name : String)
    (r : List (List Char)) :
    directionValues direction ≠ metricSetValues (some name) ++ r := by
  intro h
  cases direction with
  | none => simp [directionValues, metricSetValues] at h
  | some direction => exact absurd (List.cons.inj h).1 (by decide)

/-- An entry tells a metric set and a direction by names of their own, so one that is left out
does not go unnoticed. -/
theorem optionValues_inj {m m' : Option String} {a a' : Option Direction}
    (h : metricSetValues m ++ directionValues a = metricSetValues m' ++ directionValues a') :
    m = m' ∧ a = a' := by
  cases m with
  | none =>
    cases m' with
    | none => exact ⟨rfl, directionValues_inj h⟩
    | some name' => exact absurd h (directionValues_ne_metricSetValues a name' _)
  | some name =>
    cases m' with
    | none => exact absurd h.symm (directionValues_ne_metricSetValues a' name _)
    | some name' =>
      obtain ⟨-, h⟩ := List.cons.inj h
      obtain ⟨same, h⟩ := List.cons.inj h
      exact ⟨congrArg some (String.toList_inj.1 same), directionValues_inj h⟩

/-- **The entry of a counter** tells all but the kind of its module. -/
theorem counterEntry_inj {d e : Descriptor} (h : counterEntry d = counterEntry e) :
    Entry.ofDescriptor d = Entry.ofDescriptor e := by
  have cut := congrArg String.toList h
  simp only [counterEntry_eq, String.toList_append, List.append_assoc] at cut
  obtain ⟨tile, number⟩ := entryStart_append_inj cut
  have values := (yields_counterEntry e).readLiterals_eq
  rw [← h, (yields_counterEntry d).readLiterals_eq] at values
  simp only [Option.some.injEq, List.append_assoc, List.append_cancel_left_eq,
    List.cons_append, List.cons.injEq, true_and, String.toList_inj] at values
  obtain ⟨moduleName, address, values⟩ := values
  obtain ⟨metricSet, direction⟩ := optionValues_inj values
  simp only [Entry.ofDescriptor, Entry.mk.injEq]
  exact ⟨tile, number, moduleName, formatAddress_inj address, metricSet, direction⟩

theorem counterVariable_inj {i j : Nat}
    (h : (counterVariable i).toList = (counterVariable j).toList) : i = j := by
  simp only [counterVariable, String.toList_append, List.append_cancel_left_eq] at h
  exact toString_inj h

/-- The name of a variable has no characters but its letters and digits. -/
theorem notMem_counterVariable {c : Char} (letter : c ∉ "ctr_".toList) (digit : c.isDigit = false)
    (i : Nat) : c ∉ (counterVariable i).toList := by
  rw [counterVariable, String.toList_append, List.mem_append, not_or]
  exact ⟨letter, notMem_toString digit i⟩

/-- **The entry of a tile** tells the tile and the places of its counters. -/
theorem groupEntry_inj {g g' : TileGroup} (h : groupEntry g = groupEntry g') : g = g' := by
  replace h := congrArg String.toList h
  simp only [groupEntry, object, field, String.toList_append, String.toList_intercalate,
    List.map_cons, List.map_nil, List.intercalate_cons_cons, List.intercalate_singleton,
    List.append_assoc, List.append_cancel_left_eq] at h
  obtain ⟨column, h⟩ := toString_append_inj (by simp) (by simp) h
  simp only [List.append_cancel_left_eq] at h
  obtain ⟨row, h⟩ := toString_append_inj (by simp) (by simp) h
  simp only [List.append_cancel_left_eq, List.append_cancel_right_eq, List.map_map] at h
  have members : g.members = g'.members :=
    intercalate_map_inj (f := fun i => (counterVariable i).toList) (by simp [counterVariable])
      (notMem_counterVariable (by decide) (by decide)) (fun _ _ => counterVariable_inj) h
  obtain ⟨tile, members'⟩ := g
  rw [TileGroup.mk.injEq]
  exact ⟨Tile.eq_of_toNat column row, members⟩

theorem readLine_inj {d e : Descriptor} {i j : Nat} (h : readLine d i = readLine e j) :
    d.address = e.address := by
  rw [readLine, readLine, String.append_left_inj] at h
  replace h := congrArg String.toList h
  simp only [counterVariable, String.toList_append, List.append_assoc,
    List.append_cancel_left_eq] at h
  obtain ⟨-, h⟩ := toString_append_inj (by simp) (by simp) h
  exact formatAddress_inj (String.toList_inj.1 (List.append_cancel_left h))

/-- **The lines that read counters** tell their addresses. -/
theorem readLines_inj {ds es : List Descriptor}
    (h : ds.zipIdx.map (fun c => readLine c.1 c.2) = es.zipIdx.map fun c => readLine c.1 c.2) :
    ds.map Descriptor.address = es.map Descriptor.address := by
  have addresses : ds.zipIdx.map (fun c => c.1.address) = es.zipIdx.map fun c => c.1.address := by
    refine map_eq_map_of_inj ?_ h
    intro c c' same
    exact readLine_inj same
  have forget (l : List Descriptor) :
      l.zipIdx.map (fun c => c.1.address) = l.map Descriptor.address := by
    have places := congrArg (List.map Descriptor.address) (List.zipIdx_map_fst 0 l)
    rwa [List.map_map] at places
  rwa [forget, forget] at addresses

/-- **The comment above a probe** tells its columns, once the program is known. -/
theorem probeComment_inj {q r : Instrumentation} (base : q.baseName = r.baseName)
    (h : probeComment q = probeComment r) :
    q.firstColumn = r.firstColumn ∧ q.lastColumn = r.lastColumn := by
  replace h := congrArg String.toList h
  unfold probeComment at h
  simp only [base, String.toList_append, List.append_assoc, List.append_cancel_left_eq] at h
  obtain ⟨first, h⟩ := toString_append_inj (by simp) (by simp) h
  simp only [List.append_cancel_left_eq] at h
  obtain ⟨last, -⟩ := toString_append_inj (by simp) (by simp) h
  exact ⟨UInt32.toNat_inj.1 first, UInt32.toNat_inj.1 last⟩

/-- **The line that says where a probe fires** tells the controller and the lines, once the
program is known. -/
theorem probeLine_inj {q r : Instrumentation} (base : q.baseName = r.baseName)
    (h : probeLine q = probeLine r) : q.core = r.core ∧ q.lines = r.lines := by
  replace h := congrArg String.toList h
  unfold probeLine at h
  simp only [base, String.toList_append, List.append_assoc, List.append_cancel_left_eq] at h
  obtain ⟨core, h⟩ := toString_append_inj (by simp) (by simp) h
  simp only [List.append_cancel_left_eq, String.toList_intercalate, List.map_map] at h
  refine ⟨UInt32.toNat_inj.1 core, ?_⟩
  refine intercalate_map_inj (f := fun line : UInt32 => (toString line.toNat).toList)
    (fun _ => toString_ne_nil _) (fun _ => notMem_toString (by decide) _) ?_ h
  exact fun _ _ same => UInt32.toNat_inj.1 (toString_inj same)

end Script

end CounterTrace
