/-!
# Tables with distinct keys

A table holds one value a key.  Its entries stay in the order in which their keys first
came in; the order says nothing about what a table means, which is `get?` alone.
-/

namespace CounterTrace

variable {κ ν : Type} [DecidableEq κ]

/-- Values under distinct keys. -/
structure Table (κ ν : Type) [DecidableEq κ] where
  /-- The keys and their values. -/
  entries : List (κ × ν)
  /-- No key is there twice. -/
  nodup : (entries.map Prod.fst).Nodup

namespace Table

/-- The value of the first entry with a key. -/
def find (k : κ) : List (κ × ν) → Option ν
  | [] => none
  | e :: es => if e.1 = k then some e.2 else find k es

/-- Adds an entry at the end, or replaces the value where the key is. -/
def put (k : κ) (v : ν) : List (κ × ν) → List (κ × ν)
  | [] => [(k, v)]
  | e :: es => if e.1 = k then (k, v) :: es else e :: put k v es

theorem map_fst_put (k : κ) (v : ν) (es : List (κ × ν)) :
    (put k v es).map Prod.fst =
      if k ∈ es.map Prod.fst then es.map Prod.fst else es.map Prod.fst ++ [k] := by
  induction es with
  | nil => simp [put]
  | cons e es ih =>
    by_cases h : e.1 = k
    · simp [put, h]
    · by_cases hk : k ∈ es.map Prod.fst
      · simp [put, h, ih, hk]
      · simp [put, h, ih, hk, Ne.symm h]

theorem nodup_put {k : κ} {v : ν} {es : List (κ × ν)} (h : (es.map Prod.fst).Nodup) :
    ((put k v es).map Prod.fst).Nodup := by
  rw [map_fst_put]
  split
  · exact h
  · rename_i hk
    rw [List.nodup_append]
    refine ⟨h, by simp, ?_⟩
    rintro a ha b hb rfl
    exact hk (List.mem_singleton.1 hb ▸ ha)

/-- The table without entries. -/
def empty : Table κ ν :=
  ⟨[], by simp⟩

instance : EmptyCollection (Table κ ν) := ⟨empty⟩

instance : Inhabited (Table κ ν) := ⟨empty⟩

/-- The value under a key. -/
def get? (t : Table κ ν) (k : κ) : Option ν :=
  find k t.entries

/-- The table with the value under the key, in place of any value that was there. -/
def insert (t : Table κ ν) (k : κ) (v : ν) : Table κ ν :=
  ⟨put k v t.entries, nodup_put t.nodup⟩

/-- The table without the key. -/
def erase (t : Table κ ν) (k : κ) : Table κ ν :=
  ⟨t.entries.filter fun e => !decide (e.1 = k),
    (List.filter_sublist.map Prod.fst).nodup t.nodup⟩

/-- How many keys there are. -/
def size (t : Table κ ν) : Nat :=
  t.entries.length

/-- Whether there are none. -/
def isEmpty (t : Table κ ν) : Bool :=
  t.entries.isEmpty

@[simp] theorem get?_empty (k : κ) : (empty : Table κ ν).get? k = none := rfl

theorem find_put (k k' : κ) (v : ν) (es : List (κ × ν)) :
    find k' (put k v es) = if k' = k then some v else find k' es := by
  induction es with
  | nil => by_cases h : k = k' <;> simp [put, find, h, eq_comm]
  | cons e es ih =>
    by_cases h : e.1 = k
    · subst h
      by_cases h' : k' = e.1
      · simp [put, find, h']
      · have apart : ¬e.1 = k' := fun h => h' h.symm
        simp [put, find, h', apart]
    · by_cases h' : e.1 = k'
      · subst h'
        simp [put, find, h]
      · simp [put, find, h, h', ih]

@[simp] theorem get?_insert (t : Table κ ν) (k k' : κ) (v : ν) :
    (t.insert k v).get? k' = if k' = k then some v else t.get? k' :=
  find_put k k' v t.entries

@[simp] theorem get?_erase (t : Table κ ν) (k k' : κ) :
    (t.erase k).get? k' = if k' = k then none else t.get? k' := by
  obtain ⟨es, nodup⟩ := t
  show find k' (es.filter fun e => !decide (e.1 = k)) = if k' = k then none else find k' es
  clear nodup
  induction es with
  | nil => simp [find]
  | cons e es ih =>
    by_cases h : e.1 = k
    · by_cases h' : k' = k
      · simpa [h, h'] using ih
      · have apart : ¬k = k' := fun e => h' e.symm
        simpa [h, h', find, apart] using ih
    · by_cases h' : e.1 = k'
      · subst h'
        simp [h, find]
      · simp [h, h', find, ih]

/-- A key has a value exactly when it is there with that value. -/
theorem get?_eq_some_iff {t : Table κ ν} {k : κ} {v : ν} :
    t.get? k = some v ↔ (k, v) ∈ t.entries := by
  obtain ⟨es, nodup⟩ := t
  unfold get?
  induction es with
  | nil => simp [find]
  | cons e es ih =>
    obtain ⟨a, b⟩ := e
    rw [List.map_cons, List.nodup_cons] at nodup
    by_cases h : a = k
    · subst h
      have absent : (a, v) ∉ es := fun h => nodup.1 (List.mem_map.2 ⟨_, h, rfl⟩)
      simp [find, absent, eq_comm]
    · have apart : ¬k = a := fun e => h e.symm
      simpa [find, h, apart] using ih nodup.2

end Table

end CounterTrace
