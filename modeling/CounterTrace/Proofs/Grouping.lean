import CounterTrace.Script.TileGroup
import Mathlib.Data.List.Induction
import Mathlib.Data.List.Nodup
import Mathlib.Logic.ExistsUnique

/-!
# Tiles in groups

Counters are grouped by their tiles: every counter is in one group, that of its tile, and the groups
and the counters in them come in the order in which they first come up.  There is only one way to do
so.  One counter more goes to the end of the group of its tile, or it is the first of a new group,
so that the groups may as well be found one counter at a time.
-/

namespace CounterTrace

section Places

variable {α : Type} [DecidableEq α] {a b : α} {l : List α}

theorem places_ne_nil (h : a ∈ l) : places a l ≠ [] := by
  obtain ⟨i, found⟩ := List.mem_iff_getElem?.1 h
  exact List.ne_nil_of_mem (mem_places.2 found)

/-- Places come in ascending order. -/
theorem pairwise_places (a : α) (l : List α) : (places a l).Pairwise (· < ·) := by
  have all : (l.zipIdx.map Prod.snd).Pairwise (· < ·) := by
    rw [List.zipIdx_map_snd]
    exact List.pairwise_lt_range' 1
  exact all.sublist (List.filter_sublist.map Prod.snd)

theorem places_concat (a b : α) (l : List α) :
    places a (l ++ [b]) = places a l ++ if b = a then [l.length] else [] := by
  by_cases same : b = a <;> simp [places, List.zipIdx_append, same]

theorem places_cons (a b : α) (l : List α) :
    places a (b :: l) = (if b = a then [0] else []) ++ (places a l).map (· + 1) := by
  have later : (l.zipIdx 1).filter (fun x => decide (x.1 = a))
      = (l.zipIdx.filter fun x => decide (x.1 = a)).map fun x => (x.1, x.2 + 1) := by
    rw [List.zipIdx_succ, List.filter_map]
    rfl
  by_cases same : b = a <;> simp [places, later, same, Function.comp_def]

theorem distinct_concat (l : List α) (a : α) :
    distinct (l ++ [a]) = if a ∈ l then distinct l else distinct l ++ [a] := by
  induction l with
  | nil => rfl
  | cons b l ih =>
    rw [List.cons_append, distinct, ih, distinct]
    by_cases first : a = b
    · subst first
      by_cases later : a ∈ l <;> simp [later]
    · by_cases later : a ∈ l <;> simp [later, first]

/-- An item comes up for the first time before those that follow it. -/
theorem pairwise_distinct (l : List α) : (distinct l).Pairwise fun a b =>
    ∀ i ∈ (places a l).head?, ∀ j ∈ (places b l).head?, i < j := by
  induction l with
  | nil => exact .nil
  | cons c l ih =>
    have later : ∀ {a}, a ≠ c → (places a (c :: l)).head? = (places a l).head?.map (· + 1) := by
      intro a apart
      rw [places_cons, if_neg apart.symm, List.nil_append, List.head?_map]
    rw [distinct, List.pairwise_cons]
    constructor
    · intro b mem i isFirst j isFirst'
      have apart : b ≠ c := by simpa using (List.mem_filter.1 mem).2
      rw [places_cons, if_pos rfl] at isFirst
      rw [later apart] at isFirst'
      obtain ⟨j, -, rfl⟩ := Option.map_eq_some_iff.1 isFirst'
      have zero : 0 = i := Option.some.inj isFirst
      omega
    · have rest := ih.filter fun b => !decide (b = c)
      refine rest.imp_of_mem ?_
      intro a b mem mem' before i isFirst j isFirst'
      rw [later (by simpa using (List.mem_filter.1 mem).2)] at isFirst
      rw [later (by simpa using (List.mem_filter.1 mem').2)] at isFirst'
      obtain ⟨i, first, rfl⟩ := Option.map_eq_some_iff.1 isFirst
      obtain ⟨j, first', rfl⟩ := Option.map_eq_some_iff.1 isFirst'
      have less := before i first j first'
      omega

end Places

namespace TileGroup

variable {tiles : List Tile} {groups groups' : List TileGroup}

/-- The groups of tiles tell the tile at each place. -/
theorem getElem?_iff_mem_ofTiles {i : Nat} {tile : Tile} :
    tiles[i]? = some tile ↔ ∃ g ∈ ofTiles tiles, g.tile = tile ∧ i ∈ g.members := by
  constructor
  · intro h
    refine ⟨⟨tile, places tile tiles⟩, ?_, rfl, mem_places.2 h⟩
    exact List.mem_map.2 ⟨tile, mem_distinct.2 (List.mem_of_getElem? h), rfl⟩
  · rintro ⟨g, mem, rfl, place⟩
    obtain ⟨tile, -, rfl⟩ := List.mem_map.1 mem
    exact mem_places.1 place

/-- **The groups of tiles** tell the tiles and their order. -/
theorem ofTiles_inj {tiles tiles' : List Tile} (h : ofTiles tiles = ofTiles tiles') :
    tiles = tiles' := by
  refine List.ext_getElem? fun i => Option.ext fun tile => ?_
  rw [getElem?_iff_mem_ofTiles, getElem?_iff_mem_ofTiles, h]

/-- The groups are those of the counters whose tiles are given. -/
structure IsGrouping (tiles : List Tile) (groups : List TileGroup) : Prop where
  /-- No tile has two groups. -/
  apart : (groups.map TileGroup.tile).Nodup
  /-- A group has a counter. -/
  nonempty : ∀ g ∈ groups, g.members ≠ []
  /-- Counters of a group come in ascending order. -/
  ascending : ∀ g ∈ groups, g.members.Pairwise (· < ·)
  /-- Every counter is in exactly one group. -/
  once : ∀ i < tiles.length, ∃! g, g ∈ groups ∧ i ∈ g.members
  /-- What is in a group is a counter, and its tile is that of the group. -/
  own : ∀ g ∈ groups, ∀ i ∈ g.members, tiles[i]? = some g.tile
  /-- Groups come in the order of their first counters. -/
  firsts : groups.Pairwise fun g h => ∀ i ∈ g.members.head?, ∀ j ∈ h.members.head?, i < j

theorem map_tile_ofTiles (tiles : List Tile) :
    (ofTiles tiles).map TileGroup.tile = distinct tiles := by
  rw [ofTiles, List.map_map]
  exact List.map_id _

/-- **Tiles are grouped** as is meant. -/
theorem isGrouping_ofTiles (tiles : List Tile) : IsGrouping tiles (ofTiles tiles) := by
  have apart : ((ofTiles tiles).map TileGroup.tile).Nodup := by
    rw [map_tile_ofTiles]
    exact nodup_distinct tiles
  have own : ∀ g ∈ ofTiles tiles, ∀ i ∈ g.members, tiles[i]? = some g.tile := by
    intro g mem i isMember
    exact getElem?_iff_mem_ofTiles.2 ⟨g, mem, rfl, isMember⟩
  constructor
  case apart => exact apart
  case nonempty =>
    intro g mem
    obtain ⟨tile, isTile, rfl⟩ := List.mem_map.1 mem
    exact places_ne_nil (mem_distinct.1 isTile)
  case ascending =>
    intro g mem
    obtain ⟨tile, -, rfl⟩ := List.mem_map.1 mem
    exact pairwise_places tile tiles
  case once =>
    intro i inside
    obtain ⟨g, mem, -, isMember⟩ := getElem?_iff_mem_ofTiles.1 (List.getElem?_eq_getElem inside)
    refine ⟨g, ⟨mem, isMember⟩, ?_⟩
    rintro h ⟨mem', isMember'⟩
    have tile : h.tile = g.tile :=
      Option.some.inj ((own h mem' i isMember').symm.trans (own g mem i isMember))
    exact List.inj_on_of_nodup_map apart mem' mem tile
  case own => exact own
  case firsts => exact List.pairwise_map.2 (pairwise_distinct tiles)

/-- The counters of a group are those of its tile. -/
theorem IsGrouping.mem_members_iff (h : IsGrouping tiles groups) {g : TileGroup} (mem : g ∈ groups)
    {i : Nat} : i ∈ g.members ↔ tiles[i]? = some g.tile := by
  constructor
  · exact h.own g mem i
  · intro found
    obtain ⟨inside, -⟩ := List.getElem?_eq_some_iff.1 found
    obtain ⟨g', ⟨mem', isMember⟩, -⟩ := h.once i inside
    have tile : g'.tile = g.tile := Option.some.inj ((h.own g' mem' i isMember).symm.trans found)
    rwa [← List.inj_on_of_nodup_map h.apart mem' mem tile]

/-- So a group is told by its tile. -/
theorem IsGrouping.eq_of_tile (h : IsGrouping tiles groups) (h' : IsGrouping tiles groups')
    {g g' : TileGroup} (mem : g ∈ groups) (mem' : g' ∈ groups') (tile : g.tile = g'.tile) :
    g = g' := by
  have ascending := h.ascending g mem
  have ascending' := h'.ascending g' mem'
  have nodup : g.members.Nodup := ascending.imp fun less => Nat.ne_of_lt less
  have nodup' : g'.members.Nodup := ascending'.imp fun less => Nat.ne_of_lt less
  have perm : g.members.Perm g'.members := by
    apply (List.perm_ext_iff_of_nodup nodup nodup').2
    intro i
    rw [h.mem_members_iff mem, h'.mem_members_iff mem', tile]
  have members : g.members = g'.members := by
    apply List.Perm.eq_of_pairwise _ ascending ascending' perm
    intro i j _ _ less greater
    exact absurd less (Nat.lt_asymm greater)
  cases g
  cases g'
  rw [TileGroup.mk.injEq]
  exact ⟨tile, members⟩

theorem IsGrouping.subset (h : IsGrouping tiles groups) (h' : IsGrouping tiles groups')
    {g : TileGroup} (mem : g ∈ groups) : g ∈ groups' := by
  obtain ⟨i, isMember⟩ := List.exists_mem_of_ne_nil _ (h.nonempty g mem)
  have found := h.own g mem i isMember
  obtain ⟨inside, -⟩ := List.getElem?_eq_some_iff.1 found
  obtain ⟨g', ⟨mem', isMember'⟩, -⟩ := h'.once i inside
  have tile : g.tile = g'.tile := Option.some.inj (found.symm.trans (h'.own g' mem' i isMember'))
  rwa [h.eq_of_tile h' mem mem' tile]

/-- **There is only one grouping** of some tiles: the groups are the same, and their order is that
of their first counters. -/
theorem IsGrouping.unique (h : IsGrouping tiles groups) (h' : IsGrouping tiles groups') :
    groups = groups' := by
  have perm : groups.Perm groups' := by
    apply (List.perm_ext_iff_of_nodup h.apart.of_map h'.apart.of_map).2
    intro g
    exact ⟨h.subset h', h'.subset h⟩
  apply List.Perm.eq_of_pairwise _ h.firsts h'.firsts perm
  intro g g' mem mem' before after
  obtain ⟨i, first⟩ := Option.isSome_iff_exists.1 (List.isSome_head?.2 (h.nonempty g mem))
  obtain ⟨j, first'⟩ := Option.isSome_iff_exists.1 (List.isSome_head?.2 (h'.nonempty g' mem'))
  have less := before i first j first'
  have greater := after j first' i first
  omega

theorem isGrouping_iff : IsGrouping tiles groups ↔ ofTiles tiles = groups := by
  constructor
  · exact (isGrouping_ofTiles tiles).unique
  · rintro rfl
    exact isGrouping_ofTiles tiles

/-- **No counter is left out**, and none comes up twice: what the groups say of the counters is what
there is to say, in another order. -/
theorem flatMap_ofTiles_perm (tiles : List Tile) :
    ((ofTiles tiles).flatMap fun g => g.members.map fun i => (g.tile, i)).Perm tiles.zipIdx := by
  have grouping := isGrouping_ofTiles tiles
  have nodup : ((ofTiles tiles).flatMap fun g => g.members.map fun i => (g.tile, i)).Nodup := by
    refine List.nodup_flatMap.2 ⟨?_, (List.pairwise_map.1 grouping.apart).imp ?_⟩
    · intro g mem
      have distinct := (grouping.ascending g mem).imp fun less => Nat.ne_of_lt less
      exact List.Pairwise.map _ (fun i j ne same => ne (Prod.mk.inj same).2) distinct
    · intro g h apart c mem mem'
      obtain ⟨i, -, rfl⟩ := List.mem_map.1 mem
      obtain ⟨j, -, same⟩ := List.mem_map.1 mem'
      exact apart (Prod.mk.inj same).1.symm
  have nodup' : tiles.zipIdx.Nodup := by
    have places : (tiles.zipIdx.map Prod.snd).Nodup := by
      rw [List.zipIdx_map_snd]
      exact List.nodup_range' 1
    exact places.of_map
  apply (List.perm_ext_iff_of_nodup nodup nodup').2
  rintro ⟨tile, i⟩
  rw [List.mem_zipIdx_iff_getElem?, getElem?_iff_mem_ofTiles]
  simp [and_comm]

theorem place_of_notMem {tile : Tile} {i : Nat} (h : tile ∉ groups.map TileGroup.tile) :
    place tile i groups = groups ++ [⟨tile, [i]⟩] := by
  induction groups with
  | nil => rfl
  | cons g groups ih =>
    rw [List.map_cons, List.mem_cons, not_or] at h
    rw [place, if_neg (Ne.symm h.1), ih h.2, List.cons_append]

/-- Groups in which only the one of a tile changes. -/
theorem place_of_mem {tile : Tile} {i : Nat} {l : List Tile} (nodup : l.Nodup) (mem : tile ∈ l)
    (f : Tile → List Nat) :
    place tile i (l.map fun t => ⟨t, f t⟩)
      = l.map fun t => ⟨t, f t ++ if tile = t then [i] else []⟩ := by
  induction l with
  | nil => simp at mem
  | cons t l ih =>
    rw [List.nodup_cons] at nodup
    rw [List.map_cons, place, List.map_cons]
    by_cases first : t = tile
    · subst first
      have others : ∀ u ∈ l, t ≠ u := by
        rintro u isIn rfl
        exact nodup.1 isIn
      rw [if_pos rfl, if_pos rfl]
      refine congrArg _ (List.map_congr_left ?_)
      intro u isIn
      rw [if_neg (others u isIn), List.append_nil]
    · rw [if_neg first, if_neg (Ne.symm first), List.append_nil,
        ih nodup.2 ((List.mem_cons.1 mem).resolve_left (Ne.symm first))]

/-- **One counter more** is put in its place. -/
theorem ofTiles_concat (tiles : List Tile) (tile : Tile) :
    ofTiles (tiles ++ [tile]) = place tile tiles.length (ofTiles tiles) := by
  simp only [ofTiles, distinct_concat, places_concat]
  by_cases known : tile ∈ tiles
  · rw [if_pos known, place_of_mem (nodup_distinct tiles) (mem_distinct.2 known)]
  · have isNew : tile ∉ (ofTiles tiles).map TileGroup.tile := by
      rw [map_tile_ofTiles, mem_distinct]
      exact known
    have nowhere : places tile tiles = [] := by
      apply List.eq_nil_iff_forall_not_mem.2
      intro i found
      exact known (List.mem_of_getElem? (mem_places.1 found))
    have others : ∀ t ∈ distinct tiles, tile ≠ t := by
      rintro t mem rfl
      exact known (mem_distinct.1 mem)
    rw [if_neg known, List.map_append, List.map_singleton, if_pos rfl, nowhere, List.nil_append]
    refine Eq.trans ?_ (place_of_notMem isNew).symm
    refine congrArg (· ++ _) (List.map_congr_left ?_)
    intro t mem
    rw [if_neg (others t mem), List.append_nil]

/-- **The groups of tiles** are found one counter at a time. -/
theorem ofTiles_eq_foldl (tiles : List Tile) :
    ofTiles tiles = tiles.zipIdx.foldl (fun groups c => place c.1 c.2 groups) [] := by
  induction tiles using List.reverseRecOn with
  | nil => rfl
  | append_singleton tiles tile ih =>
    rw [ofTiles_concat, ih, List.zipIdx_append, List.foldl_append]
    simp

end TileGroup

end CounterTrace
