/-!
# The fields of a manifest row

A row is cut into fields at its commas.  A double quote switches quoting on or off and is
dropped; a comma inside quotes is part of its field.  There is no way to write a quote
that belongs to a field, and a quote that is never closed quotes the rest of the row.
-/

namespace CounterTrace.Manifest

/-- The fields of the rest of a row, where that rest begins inside or outside quotes.  The
first field goes on from what stands before. -/
def fieldsFrom : Bool → List Char → List (List Char)
  | _, [] => [[]]
  | quoted, c :: r =>
    if c = '"' then fieldsFrom (!quoted) r
    else if c = ',' ∧ quoted = false then [] :: fieldsFrom quoted r
    else (fieldsFrom quoted r).modifyHead (c :: ·)

/-- The fields of a row. -/
def fields (row : List Char) : List (List Char) :=
  fieldsFrom false row

/-- A row of the given fields, each in quotes. -/
def quotedRow (fs : List (List Char)) : List Char :=
  [','].intercalate (fs.map fun f => '"' :: f ++ ['"'])

theorem fieldsFrom_ne_nil (quoted : Bool) (row : List Char) : fieldsFrom quoted row ≠ [] := by
  induction row generalizing quoted with
  | nil => simp [fieldsFrom]
  | cons c r ih =>
    unfold fieldsFrom
    split
    · exact ih _
    · split
      · simp
      · cases h : fieldsFrom quoted r with
        | nil => exact absurd h (ih quoted)
        | cons f fs => simp

/-- Every row has a field. -/
theorem fields_ne_nil (row : List Char) : fields row ≠ [] :=
  fieldsFrom_ne_nil false row

/-- Text without quotes that stands inside quotes goes into the field as it is. -/
theorem fieldsFrom_true_append {s : List Char} (h : '"' ∉ s) (r : List Char) :
    fieldsFrom true (s ++ r) = (fieldsFrom true r).modifyHead (s ++ ·) := by
  induction s with
  | nil =>
    cases h' : fieldsFrom true r with
    | nil => exact absurd h' (fieldsFrom_ne_nil true r)
    | cons f fs => simp [h']
  | cons c s ih =>
    rw [List.mem_cons, not_or] at h
    have hc : c ≠ '"' := fun e => h.1 e.symm
    rw [List.cons_append, fieldsFrom, if_neg hc, if_neg (by simp), ih h.2]
    cases fieldsFrom true r <;> rfl

/-- A row written field by field in quotes has those fields. -/
theorem fields_quotedRow {fs : List (List Char)} (nonempty : fs ≠ [])
    (h : ∀ f ∈ fs, '"' ∉ f) : fields (quotedRow fs) = fs := by
  have one : ∀ (f r : List Char), '"' ∉ f →
      fieldsFrom false ('"' :: f ++ '"' :: r) = (fieldsFrom false r).modifyHead (f ++ ·) := by
    intro f r hf
    simp only [List.cons_append, fieldsFrom, if_true, Bool.not_false]
    rw [fieldsFrom_true_append hf, fieldsFrom, if_pos rfl]
    rfl
  induction fs with
  | nil => exact absurd rfl nonempty
  | cons f fs ih =>
    cases fs with
    | nil =>
      have := one f [] (h f (by simp))
      simpa [fields, quotedRow, fieldsFrom] using this
    | cons g gs =>
      have rest := ih (by simp) fun f hf => h f (List.mem_cons_of_mem _ hf)
      have row : quotedRow (f :: g :: gs) = '"' :: f ++ '"' :: (',' :: quotedRow (g :: gs)) := by
        simp [quotedRow, List.intercalate]
      rw [row, fields, one f _ (h f (by simp)), fieldsFrom, if_neg (by decide), if_pos (by simp)]
      rw [fields] at rest
      rw [rest]
      simp

/-- Quotes may stand anywhere in a field, and one that stays open quotes the rest. -/
example : fields "a\"b,\"c,,\"d,e".toList =
    ["ab,c".toList, "".toList, "d,e".toList] := by
  decide

end CounterTrace.Manifest
