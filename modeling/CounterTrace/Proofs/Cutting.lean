import CounterTrace.Counter.Address
import CounterTrace.Text.Line

/-!
# Cutting printed text apart

Text that is put together from parts can be cut into them again if it shows how far each part
goes.  A part whose items are all of one kind goes as far as the first item of another kind: the
digits of a number end before the character behind them, and items without a comma end before the
comma that separates them.
-/

namespace CounterTrace

section Run

variable {α : Type}

/-- A run of items of the kind `p` ends where this list begins. -/
def EndsRun (p : α → Bool) : List α → Prop
  | [] => True
  | a :: _ => p a = false

@[simp] theorem endsRun_cons (p : α → Bool) (a : α) (l : List α) :
    EndsRun p (a :: l) ↔ p a = false := .rfl

variable {p : α → Bool} {xs ys r s : List α}

/-- **A run and what is behind it** are told apart. -/
theorem append_inj_of_run (hx : ∀ a ∈ xs, p a = true) (hy : ∀ a ∈ ys, p a = true)
    (hr : EndsRun p r) (hs : EndsRun p s) (h : xs ++ r = ys ++ s) : xs = ys ∧ r = s := by
  induction xs generalizing ys with
  | nil =>
    cases ys with
    | nil => exact ⟨rfl, h⟩
    | cons y ys =>
      -- the first item of `ys` is where `r` begins
      rw [List.nil_append, List.cons_append] at h
      rw [h, endsRun_cons, hy y (by simp)] at hr
      exact absurd hr (by decide)
  | cons x xs ih =>
    cases ys with
    | nil =>
      rw [List.nil_append, List.cons_append] at h
      rw [← h, endsRun_cons, hx x (by simp)] at hs
      exact absurd hs (by decide)
    | cons y ys =>
      obtain ⟨rfl, rest⟩ := List.cons.inj h
      have hx' : ∀ a ∈ xs, p a = true := fun a ha => hx a (List.mem_cons_of_mem _ ha)
      have hy' : ∀ a ∈ ys, p a = true := fun a ha => hy a (List.mem_cons_of_mem _ ha)
      obtain ⟨rfl, rfl⟩ := ih hx' hy' rest
      exact ⟨rfl, rfl⟩

/-- If what is printed for an item tells something of the item, then what is printed for the items
of a list tells it of each. -/
theorem map_eq_map_of_inj {β γ : Type} {f : α → β} {g : α → γ}
    (inj : ∀ a b, f a = f b → g a = g b) (h : xs.map f = ys.map f) : xs.map g = ys.map g := by
  induction xs generalizing ys with
  | nil =>
    cases ys with
    | nil => rfl
    | cons y ys => simp at h
  | cons x xs ih =>
    cases ys with
    | nil => simp at h
    | cons y ys =>
      obtain ⟨first, rest⟩ := List.cons.inj h
      rw [List.map_cons, List.map_cons, inj x y first, ih rest]

variable [DecidableEq α] {c : α}

/-- What is before the first occurrence of an item and what is behind it are told apart. -/
theorem append_cons_inj (hx : c ∉ xs) (hy : c ∉ ys) (h : xs ++ c :: r = ys ++ c :: s) :
    xs = ys ∧ r = s := by
  have other {l : List α} (hl : c ∉ l) : ∀ a ∈ l, decide (a ≠ c) = true := by
    intro a ha
    rw [decide_eq_true_eq]
    rintro rfl
    exact hl ha
  obtain ⟨rfl, rest⟩ := append_inj_of_run (p := fun a => decide (a ≠ c)) (other hx) (other hy)
    (by simp) (by simp) h
  exact ⟨rfl, (List.cons.inj rest).2⟩

/-- **Items with separators between them** are told apart, if the separator begins with something
that no item has. -/
theorem intercalate_inj {sep : List α} {ls ms : List (List α)} (hl : ∀ l ∈ ls, l ≠ [] ∧ c ∉ l)
    (hm : ∀ m ∈ ms, m ≠ [] ∧ c ∉ m)
    (h : (c :: sep).intercalate ls = (c :: sep).intercalate ms) : ls = ms := by
  have nonempty {l : List α} {ls : List (List α)} (hl : l ≠ []) :
      (c :: sep).intercalate (l :: ls) ≠ [] := by
    cases ls <;> simp [hl]
  have separated {l l' : List α} {ls : List (List α)} :
      c ∈ (c :: sep).intercalate (l :: l' :: ls) := by
    simp [List.intercalate_cons_cons]
  induction ls generalizing ms with
  | nil =>
    cases ms with
    | nil => rfl
    | cons m ms => exact absurd h.symm (nonempty (hm m (by simp)).1)
  | cons l ls ih =>
    obtain ⟨hl₀, hl'⟩ := List.forall_mem_cons.1 hl
    cases ms with
    | nil => exact absurd h (nonempty hl₀.1)
    | cons m ms =>
      obtain ⟨hm₀, hm'⟩ := List.forall_mem_cons.1 hm
      cases ls with
      | nil =>
        cases ms with
        | nil => simpa using h
        | cons m' ms =>
          rw [List.intercalate_singleton] at h
          exact absurd (h ▸ separated) hl₀.2
      | cons l' ls =>
        cases ms with
        | nil =>
          rw [List.intercalate_singleton] at h
          exact absurd (h ▸ separated) hm₀.2
        | cons m' ms =>
          simp only [List.intercalate_cons_cons, List.append_assoc, List.cons_append] at h
          obtain ⟨rfl, rest⟩ := append_cons_inj hl₀.2 hm₀.2 h
          rw [ih hl' hm' (List.append_cancel_left rest)]

/-- If the texts of items are apart, then what tells the items apart is in the texts with
separators between them. -/
theorem intercalate_map_inj {β : Type} {f : β → List α} {sep : List α}
    (nonempty : ∀ b, f b ≠ []) (free : ∀ b, c ∉ f b) (inj : ∀ a b, f a = f b → a = b)
    {bs ds : List β} (h : (c :: sep).intercalate (bs.map f) = (c :: sep).intercalate (ds.map f)) :
    bs = ds := by
  have apart (l : List β) : ∀ t ∈ l.map f, t ≠ [] ∧ c ∉ t := by
    intro t ht
    obtain ⟨b, -, rfl⟩ := List.mem_map.1 ht
    exact ⟨nonempty b, free b⟩
  exact List.map_inj_right inj |>.1 (intercalate_inj (apart bs) (apart ds) h)

end Run

namespace Text

theorem isDigit_of_mem_toString {n : Nat} {c : Char} (h : c ∈ (toString n).toList) :
    c.isDigit = true := by
  rw [Nat.toString_eq_repr, Nat.toList_repr] at h
  exact Nat.isDigit_of_mem_toDigits (by decide) (by decide) h

theorem notMem_toString {c : Char} (h : c.isDigit = false) (n : Nat) : c ∉ (toString n).toList := by
  intro mem
  rw [isDigit_of_mem_toString mem] at h
  exact absurd h (by decide)

theorem toString_ne_nil (n : Nat) : (toString n).toList ≠ [] := by
  rw [Nat.toString_eq_repr, Nat.toList_repr]
  exact Nat.toDigits_ne_nil

/-- Numbers differ in their digits. -/
theorem toString_inj {m n : Nat} (h : (toString m).toList = (toString n).toList) : m = n := by
  simp only [Nat.toString_eq_repr, Nat.toList_repr] at h
  calc
    m = Nat.ofDigitChars 10 (Nat.toDigits 10 m) 0 := Nat.ofDigitChars_ten_toDigits.symm
    _ = Nat.ofDigitChars 10 (Nat.toDigits 10 n) 0 := by rw [h]
    _ = n := Nat.ofDigitChars_ten_toDigits

/-- **A number and what is behind it** are told apart. -/
theorem toString_append_inj {m n : Nat} {r s : List Char} (hr : EndsRun Char.isDigit r)
    (hs : EndsRun Char.isDigit s) (h : (toString m).toList ++ r = (toString n).toList ++ s) :
    m = n ∧ r = s := by
  obtain ⟨digits, rest⟩ := append_inj_of_run (fun _ => isDigit_of_mem_toString)
    (fun _ => isDigit_of_mem_toString) hr hs h
  exact ⟨toString_inj digits, rest⟩

/-- The number of a hexadecimal digit. -/
def hexDigitValue (c : Char) : Nat :=
  if c.isDigit then c.toNat - '0'.toNat else c.toNat - 'a'.toNat + 10

/-- The number of a text in hexadecimal. -/
def hexValue (s : List Char) : Nat :=
  s.foldl (fun n c => 16 * n + hexDigitValue c) 0

theorem hexDigitValue_digitChar {d : Nat} (h : d < 16) : hexDigitValue d.digitChar = d := by
  have all : ∀ d < 16, hexDigitValue d.digitChar = d := by decide
  exact all d h

theorem hexValue_append_singleton (s : List Char) (c : Char) :
    hexValue (s ++ [c]) = 16 * hexValue s + hexDigitValue c := by
  simp [hexValue]

/-- The digits of a number give the number. -/
theorem hexValue_toDigits (n : Nat) : hexValue (Nat.toDigits 16 n) = n := by
  induction n using Nat.strongRecOn with
  | ind n ih =>
    by_cases small : n < 16
    · rw [Nat.toDigits_of_lt_base small]
      simp [hexValue, hexDigitValue_digitChar small]
    · rw [Nat.toDigits_of_base_le (by decide) (by omega), hexValue_append_singleton,
        ih (n / 16) (by omega), hexDigitValue_digitChar (Nat.mod_lt n (by decide))]
      omega

theorem hexValue_replicate_append (k : Nat) (s : List Char) :
    hexValue (List.replicate k '0' ++ s) = hexValue s := by
  induction k with
  | zero => rfl
  | succ k ih => simpa [hexValue, List.replicate_succ, hexDigitValue] using ih

/-- Zeros in front do not count. -/
theorem hexValue_paddedHex (width n : Nat) : hexValue (paddedHex width n) = n := by
  rw [paddedHex, List.leftpad, hexValue_replicate_append, hexValue_toDigits]

/-- A number is made of digits. -/
theorem exists_digit_of_mem_toDigits {n : Nat} {c : Char} (h : c ∈ Nat.toDigits 16 n) :
    ∃ d < 16, c = Nat.digitChar d := by
  induction n using Nat.strongRecOn with
  | ind n ih =>
    rw [Nat.toDigits_eq_if (by decide)] at h
    split at h
    · rename_i small
      exact ⟨n, small, List.mem_singleton.1 h⟩
    · rcases List.mem_append.1 h with front | last
      · exact ih (n / 16) (by omega) front
      · exact ⟨n % 16, Nat.mod_lt n (by decide), List.mem_singleton.1 last⟩

/-- So is a padded number. -/
theorem exists_digit_of_mem_paddedHex {width n : Nat} {c : Char} (h : c ∈ paddedHex width n) :
    ∃ d < 16, c = Nat.digitChar d := by
  rw [paddedHex, List.leftpad, List.mem_append] at h
  rcases h with zero | digit
  · exact ⟨0, by decide, List.eq_of_mem_replicate zero⟩
  · exact exists_digit_of_mem_toDigits digit

/-- **Lines are told apart** in their text. -/
theorem unlines_inj {ls ms : List String} (hl : ∀ l ∈ ls, '\n' ∉ l.toList)
    (hm : ∀ m ∈ ms, '\n' ∉ m.toList) (h : unlines ls = unlines ms) : ls = ms := by
  replace h := congrArg String.toList h
  simp only [toList_unlines] at h
  induction ls generalizing ms with
  | nil =>
    cases ms with
    | nil => rfl
    | cons m ms => simp at h
  | cons l ls ih =>
    cases ms with
    | nil => simp at h
    | cons m ms =>
      obtain ⟨hl₀, hl'⟩ := List.forall_mem_cons.1 hl
      obtain ⟨hm₀, hm'⟩ := List.forall_mem_cons.1 hm
      simp only [List.flatMap_cons, List.append_assoc, List.singleton_append] at h
      obtain ⟨line, rest⟩ := append_cons_inj hl₀ hm₀ h
      rw [String.toList_inj.1 line, ih hl' hm' rest]

end Text

/-- **Addresses differ in their text.** -/
theorem formatAddress_inj {a b : UInt64} (h : formatAddress a = formatAddress b) : a = b := by
  have digits : Text.paddedHex addressDigits a.toNat = Text.paddedHex addressDigits b.toNat := by
    simpa [formatAddress, ← String.toList_inj] using h
  have value := congrArg Text.hexValue digits
  rw [Text.hexValue_paddedHex, Text.hexValue_paddedHex] at value
  exact UInt64.toNat_inj.1 value

end CounterTrace
