import CounterTrace.Proofs.LineNumbers
import CounterTrace.Proofs.RowCounts

/-!
# Manifests written line by line

A manifest that is written as lines, each ended by a line feed, is read as these lines, except that
a carriage return at the end of one counts as part of the line end.  For a row that makes no
difference: what it would add to the last field is white space around the last line number.
-/

namespace CounterTrace

namespace Text

/-- A line without the carriage return at its end, if there is one. -/
def dropReturn (line : List Char) : List Char :=
  if line.getLast? = some '\r' then line.dropLast else line

theorem dropReturn_cons {c : Char} {line : List Char} (h : c ≠ '\r' ∨ line ≠ []) :
    dropReturn (c :: line) = c :: dropReturn line := by
  cases line with
  | nil =>
    have other : c ≠ '\r' := by simpa using h
    simp [dropReturn, other]
  | cons d line =>
    simp only [dropReturn, List.getLast?_cons_cons, List.dropLast_cons_cons]
    split <;> rfl

/-- A line is what stands before a line feed, less the carriage return. -/
theorem lines_append_newline {line : List Char} (h : '\n' ∉ line) (r : List Char) :
    lines (line ++ '\n' :: r) = dropReturn line :: lines r := by
  induction line with
  | nil => simp [dropReturn]
  | cons c line ih =>
    rw [List.mem_cons, not_or] at h
    -- A lone carriage return is all of the line and none of what is read.
    by_cases single : c = '\r' ∧ line = []
    · obtain ⟨rfl, rfl⟩ := single
      simp [lines, dropReturn]
    · have other : c ≠ '\r' ∨ line ≠ [] := by
        by_cases isReturn : c = '\r'
        · exact .inr fun empty => single ⟨isReturn, empty⟩
        · exact .inl isReturn
      rw [dropReturn_cons other, List.cons_append, lines, ih h.2]
      · exact fun same => h.1 same.symm
      · rintro r' rfl rest
        cases line with
        | nil => exact single ⟨rfl, rfl⟩
        | cons d line =>
          rw [List.cons_append, List.cons.injEq] at rest
          exact h.2 (rest.1 ▸ List.mem_cons_self)

/-- **What is written as lines is read as these lines**, less their carriage returns. -/
theorem lines_unlines {ls : List String} (h : ∀ l ∈ ls, '\n' ∉ l.toList) :
    lines (unlines ls).toList = ls.map fun l => dropReturn l.toList := by
  induction ls with
  | nil => rfl
  | cons l ls ih =>
    obtain ⟨first, rest⟩ := List.forall_mem_cons.1 h
    have read := ih rest
    rw [toList_unlines] at read ⊢
    rw [List.flatMap_cons, List.append_assoc, List.singleton_append, lines_append_newline first,
      read, List.map_cons]

theorem all_isBlank_dropReturn (line : List Char) :
    (dropReturn line).all isBlank = line.all isBlank := by
  unfold dropReturn
  split
  · rename_i ends
    obtain ⟨init, rfl⟩ := List.getLast?_eq_some_iff.1 ends
    have blank : isBlank '\r' = true := by decide
    simp [blank]
  · rfl

theorem trim_append_blank {c : Char} (blank : isBlank c = true) (s : List Char) :
    trim (s ++ [c]) = trim s := by
  have trimmed := isTrimmed_trim s
  obtain ⟨before, after, before_blank, after_blank, s_eq⟩ := trimmed.around
  have longer_blank : (after ++ [c]).all isBlank = true := by
    simp only [List.all_append, after_blank, List.all_cons, blank, List.all_nil, Bool.and_self]
  have longer_eq : s ++ [c] = before ++ trim s ++ (after ++ [c]) := by
    rw [← List.append_assoc, ← s_eq]
  apply isTrimmed_iff.1
  exact ⟨⟨before, after ++ [c], before_blank, longer_blank, longer_eq⟩, trimmed.starts,
    trimmed.ends⟩

end Text

namespace Manifest

open Text

/-- A character that is neither a quote nor a comma goes into the last field. -/
theorem fieldsFrom_append_singleton {c : Char} (noQuote : c ≠ '"') (noComma : c ≠ ',')
    (quoted : Bool) (row : List Char) :
    ∃ init last, fieldsFrom quoted row = init ++ [last] ∧
      fieldsFrom quoted (row ++ [c]) = init ++ [last ++ [c]] := by
  induction row generalizing quoted with
  | nil => exact ⟨[], [], by simp [fieldsFrom, noQuote, noComma]⟩
  | cons d row ih =>
    by_cases quote : d = '"'
    · obtain ⟨init, last, before, after⟩ := ih (!quoted)
      exact ⟨init, last, by simp [fieldsFrom, quote, before, after]⟩
    · obtain ⟨init, last, before, after⟩ := ih quoted
      by_cases comma : d = ',' ∧ quoted = false
      · obtain ⟨rfl, rfl⟩ := comma
        exact ⟨[] :: init, last, by simp [fieldsFrom, before, after]⟩
      · cases init with
        | nil => exact ⟨[], d :: last, by simp [fieldsFrom, quote, comma, before, after]⟩
        | cons first init =>
          exact ⟨(d :: first) :: init, last, by simp [fieldsFrom, quote, comma, before, after]⟩

/-- White space at the end of a list is around its last token. -/
theorem tokens_append_blank {c : Char} (blank : isBlank c = true) (noComma : c ≠ ',')
    (s : List Char) : LineList.tokens (s ++ [c]) = LineList.tokens s := by
  have one : ∀ s : List Char, ',' ∉ s → LineList.tokens (s ++ [c]) = LineList.tokens s := by
    intro s notMem
    have notMem' : ',' ∉ s ++ [c] := by simp [notMem, noComma.symm]
    rw [LineList.tokens, LineList.tokens, List.splitOn_eq_singleton notMem,
      List.splitOn_eq_singleton notMem', List.map_singleton, List.map_singleton,
      trim_append_blank blank]
  -- The last piece begins behind the last comma, which is the first one from the end.
  by_cases mem : ',' ∈ s
  · obtain ⟨last, before, reversed, notMem⟩ :=
      List.eq_append_cons_of_mem (List.mem_reverse.2 mem)
    have split : s = before.reverse ++ ',' :: last.reverse := by
      simpa using congrArg List.reverse reversed
    have lastPiece := one last.reverse (by simpa using notMem)
    rw [split, List.append_assoc, List.cons_append, LineList.tokens_append,
      LineList.tokens_append, lastPiece]
  · exact one s mem

/-- **A carriage return at the end of a row makes no difference.** -/
theorem ofLine_dropReturn (line : List Char) : Row.ofLine (dropReturn line) = Row.ofLine line := by
  unfold dropReturn
  split
  · rename_i ends
    obtain ⟨line, rfl⟩ := List.getLast?_eq_some_iff.1 ends
    rw [List.dropLast_concat]
    obtain ⟨init, last, before, after⟩ :=
      fieldsFrom_append_singleton (by decide : '\r' ≠ '"') (by decide) false line
    have lists : LineList.ofText (last ++ ['\r']) = LineList.ofText last := by
      rw [LineList.ofText, LineList.ofText, tokens_append_blank (by decide) (by decide)]
    rw [Row.ofLine, Row.ofLine, fields, fields, before, after]
    -- The last field is the list of line numbers only if there are two before it.
    rcases init with _ | ⟨directory, _ | ⟨fileName, _ | ⟨third, init⟩⟩⟩
    · rfl
    · rfl
    · simp only [List.cons_append, List.nil_append, lists]
    · simp
  · rfl

/-- The lines of a manifest that are rows, if it is written line by line. -/
def bodyRows (ls : List String) : List Row :=
  (ls.filter fun l => !l.toList.all isBlank).map fun l => Row.ofLine l.toList

/-- **The rows of a manifest written line by line.** -/
theorem map_fst_rows_unlines {header : String} {ls : List String}
    (h : ∀ l ∈ header :: ls, '\n' ∉ l.toList) :
    (rows (unlines (header :: ls))).map Prod.fst = bodyRows ls := by
  rw [map_fst_rows, bodyLines, lines_unlines h, List.map_cons, List.drop_one, List.tail_cons,
    List.filter_map, List.map_map, bodyRows]
  have blanks : (fun line => !line.all isBlank) ∘ (fun l : String => dropReturn l.toList)
      = fun l => !l.toList.all isBlank := by
    funext l
    simp [all_isBlank_dropReturn]
  rw [blanks]
  refine List.map_congr_left fun l _ => ?_
  exact ofLine_dropReturn l.toList

/-- A manifest that is written line by line is made of the rows of its lines. -/
theorem ofText_unlines {header : String} {ls : List String}
    (h : ∀ l ∈ header :: ls, '\n' ∉ l.toList) :
    ofText (unlines (header :: ls)) = ofRows (bodyRows ls) := by
  rw [ofText, map_fst_rows_unlines h]

end Manifest

end CounterTrace
