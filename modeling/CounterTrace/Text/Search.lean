/-!
# Finding one text in another

A text occurs in another if it stands somewhere in it.  Taking a beginning off a text leaves what is
behind it.
-/

namespace CounterTrace.Text

/-- Whether the first text is at the beginning of the second or of what is left of it further on. -/
def occursIn (p : List Char) : List Char → Bool
  | [] => p.isEmpty
  | c :: r => p.isPrefixOf (c :: r) || occursIn p r

/-- Whether the first text stands somewhere in the second. -/
def occurs (p s : String) : Bool :=
  occursIn p.toList s.toList

/-- Taking a beginning off a text leaves the rest. -/
theorem isPrefixOf?_eq_some_iff {p s r : List Char} : p.isPrefixOf? s = some r ↔ s = p ++ r := by
  induction p generalizing s with
  | nil =>
    change some s = some r ↔ s = r
    exact Option.some_inj
  | cons c p ih =>
    cases s with
    | nil =>
      change none = some r ↔ [] = c :: (p ++ r)
      simp
    | cons d s =>
      change (if c == d then p.isPrefixOf? s else none) = some r ↔ d :: s = c :: (p ++ r)
      by_cases h : c = d
      · simp [h, ih]
      · have apart : d ≠ c := fun e => h e.symm
        simp [h, apart]

end CounterTrace.Text
