/-!
# Lines

Text is read as lines and written as lines.  In reading, a line ends at a line feed,
and a carriage return right before that line feed belongs to the line end.  Text after
the last line feed is a line of its own, kept as it stands, unless it is empty.
-/

namespace CounterTrace.Text

/-- The lines of a text. -/
def lines : List Char → List (List Char)
  | [] => []
  | '\n' :: r => [] :: lines r
  | '\r' :: '\n' :: r => [] :: lines r
  | c :: r =>
    match lines r with
    | [] => [[c]]
    | l :: ls => (c :: l) :: ls

/-- The text of some lines, each ended by a line feed. -/
def unlines (ls : List String) : String :=
  String.join (ls.map (· ++ "\n"))

@[simp] theorem lines_nil : lines [] = [] := rfl

@[simp] theorem lines_newline (r : List Char) : lines ('\n' :: r) = [] :: lines r := by
  simp [lines]

@[simp] theorem unlines_nil : unlines [] = "" := rfl

@[simp] theorem toList_unlines (ls : List String) :
    (unlines ls).toList = ls.flatMap (fun l => l.toList ++ ['\n']) := by
  induction ls with
  | nil => rfl
  | cons l ls ih => simp_all [unlines]

/-- Only the carriage return right before a line feed is part of the line end. -/
example : lines "a\r\n\r\r\nb\r".toList = ["a".toList, "\r".toList, "b\r".toList] := by
  decide

end CounterTrace.Text
