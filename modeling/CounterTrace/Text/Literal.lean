/-!
# String literals of the script

A value stands in the script between double quotes.  A backslash or a double quote in
it is written with a backslash before it; every other character stands for itself.
-/

namespace CounterTrace.Text

/-- How one character is written between double quotes. -/
def escapeChar (c : Char) : List Char :=
  if c = '\\' ∨ c = '"' then ['\\', c] else [c]

/-- How a text is written between double quotes. -/
def escape (s : List Char) : List Char :=
  s.flatMap escapeChar

/-- The escaped text of a value, as a string. -/
def escaped (s : String) : String :=
  String.ofList (escape s.toList)

/-- A value as a literal: its escaped text between double quotes. -/
def quoted (s : String) : String :=
  "\"" ++ escaped s ++ "\""

@[simp] theorem escape_nil : escape [] = [] := rfl

@[simp] theorem escape_cons (c : Char) (s : List Char) :
    escape (c :: s) = escapeChar c ++ escape s := rfl

@[simp] theorem toList_escaped (s : String) : (escaped s).toList = escape s.toList := by
  simp [escaped]

/-- Only quotes and backslashes are escaped. -/
example : quoted "a\"\\\n" = "\"a\\\"\\\\\n\"" := by decide

end CounterTrace.Text
