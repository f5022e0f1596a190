import CounterTrace.Program.Record

/-!
# The program that a path names

A file name is searched for a program's name as a whole, directories included, while a probe is
listed under the last name of the path.  The name of a program has no slash in it, so an
occurrence lies within one component, and the leftmost occurrence is that in the first component
that has one.  The last name of a path thus stands for the same program unless a directory before
it is called like one, and it is a name of its own unless the path ends by going up.
-/

namespace CounterTrace

namespace Program

open Text (isDecimalDigit)

/-- Whether a program's name occurs in a text. -/
def isNamedIn (s : String) : Bool :=
  (digits? s.toList).isSome

/-- A text without slashes does not reach past a slash. -/
theorem prefix_append_slash_iff {p s r : List Char} (h : '/' ∉ p) :
    p <+: s ++ '/' :: r ↔ p <+: s := by
  constructor
  · rintro ⟨rest, hrest⟩
    rcases List.append_eq_append_iff.1 hrest with ⟨as, hs, -⟩ | ⟨bs, hp, hbs⟩
    · exact ⟨as, hs.symm⟩
    · cases bs with
      | nil => simp [hp]
      | cons b bs =>
        rw [List.cons_append, List.cons.injEq] at hbs
        exact absurd (by simp [hp, ← hbs.1]) h
  · intro hp
    exact hp.trans (List.prefix_append _ _)

theorem slash_notMem_pattern {digits : List Char} (h : ∀ c ∈ digits, isDecimalDigit c = true) :
    '/' ∉ stem ++ digits ++ extension := by
  have inDigits : '/' ∉ digits := fun mem => absurd (h _ mem) (by decide)
  simp only [List.mem_append, not_or]
  exact ⟨⟨by decide, inDigits⟩, by decide⟩

theorem digitsHere?_append_slash (s r : List Char) :
    digitsHere? (s ++ '/' :: r) = digitsHere? s := by
  ext digits
  rw [digitsHere?_eq_some_iff, digitsHere?_eq_some_iff]
  refine and_congr_right fun _ => and_congr_right fun all => ?_
  have starts := prefix_append_slash_iff (s := s) (r := r) (slash_notMem_pattern all)
  simpa only [List.prefix_iff_exists_eq_append] using starts

/-- An occurrence is on one side of a slash, and one on the left goes first. -/
theorem digits?_append_slash (s r : List Char) :
    digits? (s ++ '/' :: r) = (digits? s).or (digits? r) := by
  induction s with
  | nil =>
    have absent : digitsHere? ('/' :: r) = none := digitsHere?_append_slash [] r
    simp only [List.nil_append, digits?, absent, Option.none_or]
  | cons c s ih =>
    rw [List.cons_append, digits?, ← List.cons_append, digitsHere?_append_slash, digits?]
    cases digitsHere? (c :: s) with
    | none => exact ih
    | some digits => rfl

theorem digits?_intercalate (pieces : List (List Char)) :
    digits? (['/'].intercalate pieces) = pieces.findSome? digits? := by
  induction pieces with
  | nil => rfl
  | cons piece pieces ih =>
    cases pieces with
    | nil => cases h : digits? piece <;> simp [h]
    | cons next pieces =>
      rw [List.intercalate_cons_cons, List.append_assoc, List.singleton_append,
        digits?_append_slash, ih]
      cases h : digits? piece <;> simp [List.findSome?_cons, h]

/-- **The number of a path** is that of its first component with one. -/
theorem digits?_components (path : String) :
    digits? path.toList = (Path.components path).findSome? fun c => digits? c.toList := by
  rw [Path.components, List.findSome?_map]
  have back : ['/'].intercalate (path.toList.splitOn '/') = path.toList :=
    List.intercalate_splitOn '/'
  simpa [back, Function.comp_def] using digits?_intercalate (path.toList.splitOn '/')

/-- A number is read from the digits that are found, and from nothing else. -/
theorem number_eq_ok_iff {s : String} {n : UInt32} :
    number s = .ok n ↔ ∃ digits, digits? s.toList = some digits ∧ Text.word? digits = some n := by
  rw [number]
  cases digits? s.toList with
  | none => simp
  | some digits => cases h : Text.word? digits <;> simp [h]

/-- A path with a number has a first component that a program's name occurs in, and that has the
number. -/
theorem exists_first_named {path : String} {n : UInt32} (h : number path = .ok n) :
    ∃ first, (Path.components path).find? isNamedIn = some first ∧ number first = .ok n := by
  obtain ⟨digits, found, read⟩ := number_eq_ok_iff.1 h
  rw [digits?_components] at found
  obtain ⟨before, first, after, split, here, earlier⟩ := List.findSome?_eq_some_iff.1 found
  refine ⟨first, ?_, number_eq_ok_iff.2 ⟨digits, here, read⟩⟩
  refine List.find?_eq_some_iff_append.2 ⟨by simp [isNamedIn, here], before, after, split, ?_⟩
  intro c hc
  simp [isNamedIn, earlier c hc]

end Program

namespace Path

/-- No component has a slash in it. -/
theorem slash_notMem_component {path c : String} (h : c ∈ components path) : '/' ∉ c.toList := by
  have pieces : ∀ s : List Char, ∀ piece ∈ s.splitOn '/', '/' ∉ piece := by
    intro s
    induction s with
    | nil => simp
    | cons d s ih =>
      rw [List.splitOn_cons_eq_if_modifyHead]
      cases e : s.splitOn '/' with
      | nil => exact absurd e (List.splitOn_ne_nil _ _)
      | cons piece rest =>
        rw [e] at ih
        by_cases hd : d = '/'
        · simpa [hd] using ih
        · have apart : '/' ≠ d := fun h => hd h.symm
          simpa [hd, apart] using ih
  obtain ⟨piece, mem, rfl⟩ := List.mem_map.1 h
  rw [String.toList_ofList]
  exact pieces _ _ mem

/-- A path without slashes is its only component. -/
theorem components_eq_singleton {path : String} (h : '/' ∉ path.toList) :
    components path = [path] := by
  rw [components, List.splitOn_eq_singleton h]
  simp

theorem baseName_of_getLast? {path last : String} (h : (names path).getLast? = some last) :
    baseName path = if last = ".." then path else last := by
  rw [baseName, h]

/-- The last name of a path is one of its components. -/
theorem mem_components_of_getLast? {path last : String} (h : (names path).getLast? = some last) :
    last ∈ components path :=
  (List.mem_filter.1 (List.mem_of_getLast? h)).1

end Path

namespace Record

open CounterTrace.Path Program

/-- A component that a program's name occurs in leads somewhere, so the path has a last name. -/
theorem exists_last_name {path first : String} (mem : first ∈ components path)
    (named : isNamedIn first = true) : ∃ last, (names path).getLast? = some last := by
  have leads : first ∈ names path := by
    refine List.mem_filter.2 ⟨mem, ?_⟩
    simp only [staysPut, Bool.not_eq_true', Bool.or_eq_false_iff, decide_eq_false_iff_not]
    constructor
    · rintro rfl
      exact absurd named (by decide)
    · rintro rfl
      exact absurd named (by decide)
  exact ⟨_, List.getLast?_eq_some_getLast (List.ne_nil_of_mem leads)⟩

/-- A path that ends by going up from a component that a program's name occurs in has a slash. -/
theorem slash_mem_of_goes_up {path first : String} (mem : first ∈ components path)
    (named : isNamedIn first = true) (up : (names path).getLast? = some "..") :
    '/' ∈ path.toList := by
  refine Decidable.byContradiction fun absent => ?_
  have single := components_eq_singleton absent
  have isFirst : first = path := by simpa [single] using mem
  have isUp : ".." = path := by simpa [single] using mem_components_of_getLast? up
  rw [isFirst, ← isUp] at named
  exact absurd named (by decide)

/-- **When the last name of a path stands for the same program.**  The number of a record is that
of the first component of its path that a program's name occurs in.  The base name is the last
name, without a slash, or the whole path where that ends by going up.  So it has the record's
number exactly if the path ends by going up or the last name has the same number as that first
component; and where no other component is called like a program, it has the number and no
slash. -/
theorem number_baseName_iff {directory fileName : String} {points : List ProbePoint} {r : Record}
    (h : ofFile directory fileName points = .ok r) :
    ∃ first last,
      (components fileName).find? isNamedIn = some first ∧
      number first = .ok (UInt32.ofNat r.id.val) ∧
      (names fileName).getLast? = some last ∧
      r.baseName = (if last = ".." then fileName else last) ∧
      ('/' ∈ r.baseName.toList ↔ last = "..") ∧
      (number r.baseName = .ok (UInt32.ofNat r.id.val) ↔
        last = ".." ∨ number last = number first) ∧
      ((∀ c ∈ components fileName, isNamedIn c = true → c = last) →
        '/' ∉ r.baseName.toList ∧ number r.baseName = .ok (UInt32.ofNat r.id.val)) := by
  obtain ⟨whole, -, rfl, -⟩ := ofFile_eq_ok_iff.1 h
  obtain ⟨first, found, ofFirst⟩ := exists_first_named whole
  have named : isNamedIn first = true := List.find?_some found
  have mem : first ∈ components r.fileName := List.mem_of_find?_eq_some found
  obtain ⟨last, isLast⟩ := exists_last_name mem named
  have base : r.baseName = if last = ".." then r.fileName else last := baseName_of_getLast? isLast
  have slash : '/' ∈ r.baseName.toList ↔ last = ".." := by
    rw [base]
    by_cases up : last = ".."
    · subst up
      simpa using slash_mem_of_goes_up mem named isLast
    · simpa [up] using slash_notMem_component (mem_components_of_getLast? isLast)
  have same : number r.baseName = .ok (UInt32.ofNat r.id.val) ↔
      last = ".." ∨ number last = number first := by
    rw [base, ofFirst]
    by_cases up : last = ".." <;> simp [up, whole]
  refine ⟨first, last, found, ofFirst, isLast, base, slash, same, fun alone => ?_⟩
  have isFirst : first = last := alone first mem named
  constructor
  · rw [slash]
    rintro rfl
    rw [isFirst] at named
    exact absurd named (by decide)
  · rw [same, isFirst]
    exact .inr rfl

/-- A path through a directory that is called otherwise, and what follows the last name, leave
the base name its number. -/
theorem number_baseName_in_directory :
    ofFile "/work" "build/aie_runtime_control3.asm/." []
        = .ok ⟨"/work", "build/aie_runtime_control3.asm/.", ⟨3, by decide⟩, []⟩ ∧
      '/' ∉ (⟨"/work", "build/aie_runtime_control3.asm/.", ⟨3, by decide⟩, []⟩ :
        Record).baseName.toList ∧
      number (⟨"/work", "build/aie_runtime_control3.asm/.", ⟨3, by decide⟩, []⟩ :
        Record).baseName = .ok 3 := by
  have accepted : ofFile "/work" "build/aie_runtime_control3.asm/." []
      = .ok ⟨"/work", "build/aie_runtime_control3.asm/.", ⟨3, by decide⟩, []⟩ := rfl
  obtain ⟨first, last, -, -, isLast, -, -, -, agrees⟩ := number_baseName_iff accepted
  have last_eq : last = "aie_runtime_control3.asm" :=
    Option.some.inj (isLast.symm.trans (by decide))
  have alone : ∀ c ∈ components "build/aie_runtime_control3.asm/.",
      isNamedIn c = true → c = last := by
    rw [last_eq]
    decide
  exact ⟨accepted, agrees alone⟩

/-- A directory that is called like a program has its number taken for that of the base name, and
a path that ends by going up is its own base name. -/
theorem exists_number_baseName_ne :
    (∃ r, ofFile "" "aie_runtime_control1.asm/aie_runtime_control2.asm" [] = .ok r ∧
      r.id.val = 1 ∧ number r.baseName = .ok 2) ∧
    ∃ r, ofFile "" "aie_runtime_control1.asm/.." [] = .ok r ∧ '/' ∈ r.baseName.toList := by
  constructor
  · exact ⟨⟨"", "aie_runtime_control1.asm/aie_runtime_control2.asm", ⟨1, by decide⟩, []⟩,
      rfl, rfl, rfl⟩
  · exact ⟨⟨"", "aie_runtime_control1.asm/..", ⟨1, by decide⟩, []⟩, rfl, by decide⟩

end Record

end CounterTrace
