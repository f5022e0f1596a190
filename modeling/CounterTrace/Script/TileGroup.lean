import CounterTrace.Tile

/-!
# Counters grouped by tile

A script lists the counters that it samples tile by tile.  The tiles come in the order in
which they first come up, and a group names its counters by their places.
-/

namespace CounterTrace

/-- The items of a list without repetition, each where it first comes up. -/
def distinct {α : Type} [DecidableEq α] : List α → List α
  | [] => []
  | a :: l => a :: (distinct l).filter fun b => !decide (b = a)

/-- The places, counted from zero, at which a list has an item. -/
def places {α : Type} [DecidableEq α] (a : α) (l : List α) : List Nat :=
  (l.zipIdx.filter fun x => decide (x.1 = a)).map Prod.snd

/-- A tile and the places of its counters. -/
structure TileGroup where
  tile : Tile
  /-- The places of its counters, in ascending order. -/
  members : List Nat
deriving DecidableEq, Repr

/-- The groups of a list that gives the tile of each counter. -/
def TileGroup.ofTiles (tiles : List Tile) : List TileGroup :=
  (distinct tiles).map fun tile => ⟨tile, places tile tiles⟩

/-- The groups with one counter more: it goes to the group of its tile, or to a new one. -/
def TileGroup.place (tile : Tile) (i : Nat) : List TileGroup → List TileGroup
  | [] => [⟨tile, [i]⟩]
  | g :: groups =>
    if g.tile = tile then ⟨tile, g.members ++ [i]⟩ :: groups else g :: place tile i groups

/-- Nothing is lost but the repetitions. -/
@[simp] theorem mem_distinct {α : Type} [DecidableEq α] {a : α} {l : List α} :
    a ∈ distinct l ↔ a ∈ l := by
  induction l with
  | nil => simp [distinct]
  | cons b l ih =>
    by_cases h : a = b <;> simp [distinct, h, ih]

/-- Nothing comes up twice. -/
theorem nodup_distinct {α : Type} [DecidableEq α] (l : List α) : (distinct l).Nodup := by
  induction l with
  | nil => simp [distinct]
  | cons b l ih =>
    rw [distinct, List.nodup_cons]
    exact ⟨by simp, List.filter_sublist.nodup ih⟩

/-- A place is one at which the item is found. -/
theorem mem_places {α : Type} [DecidableEq α] {a : α} {l : List α} {i : Nat} :
    i ∈ places a l ↔ l[i]? = some a := by
  simp [places, List.mem_zipIdx_iff_getElem?]

/-- Tiles come in the order in which they first come up. -/
example : TileGroup.ofTiles [⟨1, 2⟩, ⟨0, 2⟩, ⟨1, 2⟩] = [⟨⟨1, 2⟩, [0, 2]⟩, ⟨⟨0, 2⟩, [1]⟩] := by
  decide

end CounterTrace
