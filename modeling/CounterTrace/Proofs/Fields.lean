import CounterTrace.Manifest.Field

/-!
# Where a row is cut into fields

A row is cut at the commas that stand outside quotes, which are those with an even number of quotes
before them.  A field is what stands between two such commas, less the quotes, so that nothing but
the quotes is lost.  Text without quotes is a field again when it is written in quotes, and, if it
has no commas either, without them.
-/

namespace CounterTrace.Manifest

/-- The text between two places of a row, without the quotes in it. -/
def between (row : List Char) (start stop : Nat) : List Char :=
  ((row.take stop).drop start).filter fun c => decide (c ≠ '"')

/-- The places of the commas with an even number of quotes before them. -/
def separators (row : List Char) : List Nat :=
  (List.range row.length).filter fun i =>
    decide (row[i]? = some ',' ∧ (row.take i).count '"' % 2 = 0)

/-- Where the field at a place of the list of fields begins: behind the separator before it. -/
def fieldStart (row : List Char) : Nat → Nat
  | 0 => 0
  | k + 1 => (separators row).getD k row.length + 1

/-- Where it ends: at the next separator, or with the row. -/
def fieldEnd (row : List Char) (k : Nat) : Nat :=
  (separators row).getD k row.length

/-- **The fields of a row**, told by the separators in it. -/
structure IsCut (row : List Char) (fs : List (List Char)) : Prop where
  nonempty : fs ≠ []
  noQuote : ∀ f ∈ fs, '"' ∉ f
  /-- With commas between them, the fields are the row without its quotes. -/
  joined : [','].intercalate fs = row.filter fun c => decide (c ≠ '"')
  /-- There is one field more than there are separators. -/
  count : fs.length = (separators row).length + 1
  /-- A field is what stands between two separators, without the quotes. -/
  field : ∀ k (h : k < fs.length), fs[k] = between row (fieldStart row k) (fieldEnd row k)

/-- The separators of the rest of a row, where that rest begins inside or outside quotes: inside,
it takes an odd number of quotes to come out. -/
def separatorsFrom (quoted : Bool) (row : List Char) : List Nat :=
  (List.range row.length).filter fun i =>
    decide (row[i]? = some ',' ∧ (row.take i).count '"' % 2 = quoted.toNat)

/-- One quote more before a place makes an even number of them odd. -/
theorem count_quote_take_succ (quoted : Bool) (c : Char) (r : List Char) (i : Nat) :
    ((c :: r).take (i + 1)).count '"' % 2 = quoted.toNat ↔
      (r.take i).count '"' % 2 = (if c = '"' then !quoted else quoted).toNat := by
  rw [List.take_succ_cons, List.count_cons]
  by_cases quote : c = '"'
  · simp only [quote, beq_self_eq_true, if_true]
    cases quoted <;> simp only [Bool.not_true, Bool.not_false, Bool.toNat_true,
      Bool.toNat_false] <;> omega
  · simp only [quote, beq_iff_eq, if_false, Nat.add_zero]

/-- The separators of a row are its first character, if that is one, and those of the rest. -/
theorem separatorsFrom_cons (quoted : Bool) (c : Char) (r : List Char) :
    separatorsFrom quoted (c :: r) = (if c = ',' ∧ quoted = false then [0] else [])
      ++ (separatorsFrom (if c = '"' then !quoted else quoted) r).map (· + 1) := by
  have later : ((List.range r.length).map (· + 1)).filter (fun i =>
        decide ((c :: r)[i]? = some ',' ∧ ((c :: r).take i).count '"' % 2 = quoted.toNat))
      = (separatorsFrom (if c = '"' then !quoted else quoted) r).map (· + 1) := by
    rw [List.filter_map, separatorsFrom]
    congr 2
    funext i
    simp only [Function.comp_apply, List.getElem?_cons_succ, count_quote_take_succ]
  have first : decide ((c :: r)[0]? = some ',' ∧ ((c :: r).take 0).count '"' % 2 = quoted.toNat)
      = decide (c = ',' ∧ quoted = false) := by
    have even : 0 % 2 = quoted.toNat ↔ quoted = false := by cases quoted <;> decide
    simp only [List.getElem?_cons_zero, Option.some.injEq, List.take_zero, List.count_nil, even]
  rw [separatorsFrom, List.length_cons, List.range_succ_eq_map, List.filter_cons, later, first]
  by_cases separates : c = ',' ∧ quoted = false <;> simp [separates]

theorem between_zero (c : Char) (r : List Char) (stop : Nat) :
    between (c :: r) 0 (stop + 1)
      = if c = '"' then between r 0 stop else c :: between r 0 stop := by
  by_cases quote : c = '"' <;> simp [between, quote]

theorem quote_notMem_between (row : List Char) (start stop : Nat) :
    '"' ∉ between row start stop := by
  simp [between]

/-- One character more in front of a row moves all places. -/
theorem zipWith_between_succ (c : Char) (r : List Char) (starts stops : List Nat) :
    List.zipWith (between (c :: r)) (starts.map (· + 1)) (stops.map (· + 1))
      = List.zipWith (between r) starts stops := by
  rw [List.zipWith_map]
  rfl

/-- What stands between some places of a row, and before the first and behind the last of them. -/
def pieces (row : List Char) (places : List Nat) : List (List Char) :=
  List.zipWith (between row) (0 :: places.map (· + 1)) (places ++ [row.length])

/-- A separator in front of a row ends a piece of its own. -/
theorem pieces_separator (c : Char) (r : List Char) (places : List Nat) :
    pieces (c :: r) (0 :: places.map (· + 1)) = [] :: pieces r places := by
  have later := zipWith_between_succ c r (0 :: places.map (· + 1)) (places ++ [r.length])
  rw [List.map_append] at later
  exact congrArg ([] :: ·) later

/-- Any other character goes into the first piece, unless it is a quote. -/
theorem pieces_cons (c : Char) (r : List Char) (places : List Nat) :
    pieces (c :: r) (places.map (· + 1)) =
      if c = '"' then pieces r places else (pieces r places).modifyHead (c :: ·) := by
  cases places with
  | nil => by_cases quote : c = '"' <;> simp [pieces, between_zero, quote]
  | cons place places =>
    have later := zipWith_between_succ c r ((place :: places).map (· + 1)) (places ++ [r.length])
    rw [List.map_append] at later
    have whole : pieces (c :: r) ((place :: places).map (· + 1)) = between (c :: r) 0 (place + 1)
        :: List.zipWith (between r) ((place :: places).map (· + 1)) (places ++ [r.length]) :=
      congrArg (between (c :: r) 0 (place + 1) :: ·) later
    rw [whole, between_zero]
    by_cases quote : c = '"' <;> simp [pieces, quote]

/-- **The fields of a row are what stands between its separators**, without the quotes. -/
theorem fieldsFrom_eq_pieces (quoted : Bool) (row : List Char) :
    fieldsFrom quoted row = pieces row (separatorsFrom quoted row) := by
  induction row generalizing quoted with
  | nil => rfl
  | cons c r ih =>
    rw [fieldsFrom, separatorsFrom_cons]
    by_cases quote : c = '"'
    · subst quote
      simp [ih, pieces_cons]
    · by_cases comma : c = ',' ∧ quoted = false
      · obtain ⟨rfl, rfl⟩ := comma
        simp [ih, pieces_separator]
      · simp [quote, comma, ih, pieces_cons]

theorem intercalate_cons_of_ne_nil {α : Type} (sep l : List α) {ls : List (List α)} (h : ls ≠ []) :
    sep.intercalate (l :: ls) = l ++ sep ++ sep.intercalate ls := by
  cases ls with
  | nil => exact absurd rfl h
  | cons m ls => exact List.intercalate_cons_cons

theorem intercalate_modifyHead {α : Type} (sep : List α) (a : α) {ls : List (List α)}
    (h : ls ≠ []) : sep.intercalate (ls.modifyHead (a :: ·)) = a :: sep.intercalate ls := by
  cases ls with
  | nil => exact absurd rfl h
  | cons l ls => cases ls <;> simp [List.intercalate_cons_cons]

theorem intercalate_fieldsFrom (quoted : Bool) (row : List Char) :
    [','].intercalate (fieldsFrom quoted row) = row.filter fun c => decide (c ≠ '"') := by
  induction row generalizing quoted with
  | nil => rfl
  | cons c r ih =>
    rw [fieldsFrom]
    by_cases quote : c = '"'
    · simp [quote, ih]
    · by_cases comma : c = ',' ∧ quoted = false
      · simp [comma, ih, intercalate_cons_of_ne_nil _ _ (fieldsFrom_ne_nil false r)]
      · simp [quote, comma, ih, intercalate_modifyHead _ _ (fieldsFrom_ne_nil quoted r)]

/-- **A row without quotes** is cut at all of its commas. -/
theorem fields_eq_splitOn {row : List Char} (h : '"' ∉ row) : fields row = row.splitOn ',' := by
  rw [fields]
  induction row with
  | nil => rfl
  | cons c r ih =>
    rw [List.mem_cons, not_or] at h
    have quote : c ≠ '"' := fun same => h.1 same.symm
    rw [fieldsFrom, if_neg quote, ih h.2, List.splitOn_cons_eq_if_modifyHead]
    by_cases comma : c = ',' <;> simp [comma]

theorem getElem?_fields {row : List Char} {k : Nat} (h : k ≤ (separators row).length) :
    (fields row)[k]? = some (between row (fieldStart row k) (fieldEnd row k)) := by
  have start : (0 :: (separators row).map (· + 1))[k]? = some (fieldStart row k) := by
    cases k with
    | zero => rfl
    | succ k =>
      have inside : k < (separators row).length := h
      simp [fieldStart, inside]
  have stop : (separators row ++ [row.length])[k]? = some (fieldEnd row k) := by
    rcases Nat.lt_or_eq_of_le h with inside | rfl
    · simp [fieldEnd, inside, List.getElem?_append_left]
    · simp [fieldEnd]
  have cut : fields row = pieces row (separators row) := fieldsFrom_eq_pieces false row
  rw [cut, pieces, List.getElem?_zipWith_eq_some]
  exact ⟨_, _, start, stop, rfl⟩

theorem length_fields (row : List Char) : (fields row).length = (separators row).length + 1 := by
  have cut : fields row = pieces row (separators row) := fieldsFrom_eq_pieces false row
  simp [cut, pieces]

/-- **Reading cuts every row** at its separators. -/
theorem isCut_fields (row : List Char) : IsCut row (fields row) := by
  have field : ∀ k (h : k < (fields row).length),
      (fields row)[k] = between row (fieldStart row k) (fieldEnd row k) := by
    intro k h
    have inside : k ≤ (separators row).length := by
      rw [length_fields] at h
      omega
    exact Option.some.inj ((List.getElem?_eq_getElem h).symm.trans (getElem?_fields inside))
  constructor
  case nonempty => exact fields_ne_nil row
  case noQuote =>
    intro f mem
    obtain ⟨k, h, rfl⟩ := List.getElem_of_mem mem
    rw [field k h]
    exact quote_notMem_between _ _ _
  case joined => exact intercalate_fieldsFrom false row
  case count => exact length_fields row
  case field => exact field

theorem mem_intercalate {α : Type} {sep : List α} {ls : List (List α)} {a : α}
    (h : a ∈ sep.intercalate ls) : a ∈ sep ∨ ∃ l ∈ ls, a ∈ l := by
  induction ls with
  | nil => simp at h
  | cons l ls ih =>
    cases ls with
    | nil => exact .inr ⟨l, by simp, by simpa using h⟩
    | cons m ls =>
      rw [List.intercalate_cons_cons, List.mem_append, List.mem_append] at h
      rcases h with (inFirst | inSep) | later
      · exact .inr ⟨l, by simp, inFirst⟩
      · exact .inl inSep
      · refine (ih later).imp id ?_
        rintro ⟨l', mem, inLater⟩
        exact ⟨l', List.mem_cons_of_mem l mem, inLater⟩

theorem mem_intercalate_of_mem {α : Type} {sep l : List α} {ls : List (List α)} {a : α}
    (mem : l ∈ ls) (isIn : a ∈ l) : a ∈ sep.intercalate ls := by
  induction ls with
  | nil => simp at mem
  | cons m ls ih =>
    cases ls with
    | nil =>
      rw [List.mem_singleton] at mem
      simpa [mem] using isIn
    | cons n ls =>
      rw [List.intercalate_cons_cons, List.mem_append]
      rcases List.mem_cons.1 mem with rfl | later
      · exact .inl (List.mem_append_left _ isIn)
      · exact .inr (ih later)

/-- What is in a field is in the row. -/
theorem mem_of_mem_fields {row f : List Char} {c : Char} (isField : f ∈ fields row) (isIn : c ∈ f) :
    c ∈ row := by
  obtain ⟨k, h, rfl⟩ := List.getElem_of_mem isField
  rw [(isCut_fields row).field k h] at isIn
  exact List.mem_of_mem_take (List.mem_of_mem_drop (List.mem_filter.1 isIn).1)

/-- Fields without quotes and commas come back from a row that has commas between them. -/
theorem fields_intercalate {fs : List (List Char)} (nonempty : fs ≠ [])
    (noQuote : ∀ f ∈ fs, '"' ∉ f) (noComma : ∀ f ∈ fs, ',' ∉ f) :
    fields ([','].intercalate fs) = fs := by
  have row_noQuote : '"' ∉ [','].intercalate fs := by
    intro mem
    rcases mem_intercalate mem with isComma | ⟨f, isField, isIn⟩
    · exact absurd isComma (by decide)
    · exact noQuote f isField isIn
  rw [fields_eq_splitOn row_noQuote]
  exact List.splitOn_intercalate ',' noComma nonempty

/-- **Reading is exact**: every row is cut at its commas outside quotes, and nothing but the quotes
is lost; and fields without quotes come back from a row in which each is written in quotes, or, if
there are no commas in them, from one in which they are written as they are. -/
theorem fields_exact :
    (∀ row, IsCut row (fields row)) ∧
      ∀ fs : List (List Char), fs ≠ [] → (∀ f ∈ fs, '"' ∉ f) → fields (quotedRow fs) = fs ∧
        ((∀ f ∈ fs, ',' ∉ f) → fields ([','].intercalate fs) = fs) := by
  refine ⟨isCut_fields, ?_⟩
  intro fs nonempty noQuote
  exact ⟨fields_quotedRow nonempty noQuote, fields_intercalate nonempty noQuote⟩

/-- A row with an empty field, one with a comma and one with white space around it; and a row of
the same fields without quotes, for those of which that can be done. -/
theorem fields_exact_commaInField :
    fields (quotedRow [[], "6,8".toList, " a\t".toList]) = [[], "6,8".toList, " a\t".toList] ∧
      fields ([','].intercalate [[], " a\t".toList]) = [[], " a\t".toList] :=
  ⟨(fields_exact.2 [[], "6,8".toList, " a\t".toList] (by decide) (by decide)).1,
    (fields_exact.2 [[], " a\t".toList] (by decide) (by decide)).2 (by decide)⟩

/-- The comma between two quotes is none to cut at, and neither is one behind a quote that is never
closed. -/
example : separators "a\"b,\"c,,\"d,e".toList = [6, 7] := by decide

end CounterTrace.Manifest
