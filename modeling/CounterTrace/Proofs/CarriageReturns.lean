import CounterTrace.Proofs.LineEnds

/-!
# Manifests with carriage returns

Some systems end a line by a carriage return and a line feed.  A manifest in which every line feed
is given a carriage return is read as before, whatever carriage returns there were: one that used to
be part of a line end becomes the last character of its line, where it is white space.
-/

namespace CounterTrace

namespace Text

/-- A text with a carriage return before each line feed, besides any that is there. -/
def withReturns (s : List Char) : List Char :=
  s.flatMap fun c => if c = '\n' then ['\r', '\n'] else [c]

/-- What holds of text without line feeds, and of a line with other text behind it if it holds of
that text, holds of every text. -/
@[elab_as_elim]
theorem line_induction {motive : List Char → Prop} (last : ∀ line, '\n' ∉ line → motive line)
    (next : ∀ line r, '\n' ∉ line → motive r → motive (line ++ '\n' :: r)) (s : List Char) :
    motive s := by
  by_cases mem : '\n' ∈ s
  · obtain ⟨line, r, split, notMem⟩ := List.eq_append_cons_of_mem mem
    have shorter : r.length < s.length := by
      rw [split, List.length_append, List.length_cons]
      omega
    rw [split]
    exact next line r notMem (line_induction last next r)
  · exact last s mem
termination_by s.length

/-- Text without line feeds gets no carriage return. -/
theorem withReturns_eq_self {line : List Char} (h : '\n' ∉ line) : withReturns line = line := by
  induction line with
  | nil => rfl
  | cons c line ih =>
    rw [List.mem_cons, not_or] at h
    have other : c ≠ '\n' := fun same => h.1 same.symm
    have rest := ih h.2
    rw [withReturns] at rest ⊢
    rw [List.flatMap_cons, if_neg other, rest]
    rfl

/-- The line before a line feed gets one. -/
theorem withReturns_append_newline {line : List Char} (h : '\n' ∉ line) (r : List Char) :
    withReturns (line ++ '\n' :: r) = (line ++ ['\r']) ++ '\n' :: withReturns r := by
  have self := withReturns_eq_self h
  rw [withReturns] at self
  rw [withReturns, List.flatMap_append, self, List.flatMap_cons, if_pos rfl, List.append_assoc]
  rfl

/-- A carriage return that is put at the end of a line is the one that is dropped. -/
theorem dropReturn_append_return (line : List Char) : dropReturn (line ++ ['\r']) = line := by
  rw [dropReturn, if_pos List.getLast?_concat, List.dropLast_concat]

end Text

namespace Manifest

open Text

/-- All that reading a manifest wants to know of a line: whether it is blank, and what it comes to
as a row. -/
def reading (line : List Char) : Bool × Row :=
  (line.all isBlank, Row.ofLine line)

/-- A carriage return at the end of a line is white space, so it is as good as none. -/
theorem reading_dropReturn (line : List Char) : reading (dropReturn line) = reading line := by
  rw [reading, reading, all_isBlank_dropReturn, ofLine_dropReturn]

/-- **The lines of a text with carriage returns** are read as those of the text.  A line that ends
in a carriage return keeps it now, and the one that is put behind it is dropped instead. -/
theorem map_reading_lines_withReturns (s : List Char) :
    (lines (withReturns s)).map reading = (lines s).map reading := by
  induction s using line_induction with
  | last line notMem => rw [withReturns_eq_self notMem]
  | next line r notMem ih =>
    have notMem' : '\n' ∉ line ++ ['\r'] := by simp [notMem]
    rw [withReturns_append_newline notMem, lines_append_newline notMem',
      lines_append_newline notMem, List.map_cons, List.map_cons, ih, dropReturn_append_return,
      reading_dropReturn]

/-- The rows of a text and their places are told by the readings of its lines. -/
theorem rows_eq_map_reading (text : String) :
    rows text = (((((lines text.toList).map reading).zipIdx 1).drop 1).filter fun line =>
      !line.1.1).map fun line => (line.1.2, line.2) := by
  rw [rows, dataLines, List.zipIdx_map, ← List.map_drop, List.filter_map, List.map_map]
  rfl

/-- **Carriage returns before the line feeds make no difference** to a manifest: there are the same
records, the same statistics, and the same warnings about the same lines. -/
theorem ofText_withReturns (text : String) :
    ofText (String.ofList (withReturns text.toList)) = ofText text ∧
      warnings (String.ofList (withReturns text.toList)) = warnings text := by
  have same : rows (String.ofList (withReturns text.toList)) = rows text := by
    rw [rows_eq_map_reading, rows_eq_map_reading, String.toList_ofList,
      map_reading_lines_withReturns]
  rw [ofText, ofText, warnings, warnings, same]
  exact ⟨rfl, rfl⟩

/-- A carriage return that is there already becomes part of its line, here of a token that is
rejected; at the end of the text it is part of its line in any case. -/
example : lines (withReturns "h\n/d,f,x\r\n\r".toList) = ["h", "/d,f,x\r", "\r"].map String.toList
    ∧ lines "h\n/d,f,x\r\n\r".toList = ["h", "/d,f,x", "\r"].map String.toList := by
  decide

end Manifest

end CounterTrace
