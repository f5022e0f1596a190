import CounterTrace.Metric.Collections
import CounterTrace.Proofs.FirstNames
import Mathlib.Data.List.Induction
import Mathlib.Data.List.Nodup

/-!
# Flattening collections

Collections are put under their keys, and their names are given in the order of the keys.  What
comes of it depends only on the last collection under each key: neither on the order in which the
collections were put, nor on the order in which a table goes through its entries.

The entries of a table can be taken up in any order, one by one, into a map that is sorted by key
(`inOrder`).  As the order of keys is strict and total, there is one list of the entries in
ascending order, and every way to take them up ends there.
-/

namespace CounterTrace

/-- The rank tells the kinds of module apart. -/
theorem CounterModule.rank_inj {a b : CounterModule} (h : a.rank = b.rank) : a = b := by
  have same : all[a.rank]? = all[b.rank]? := by rw [h]
  rw [getElem?_rank, getElem?_rank] at same
  exact Option.some.inj same

namespace CollectionKey

variable {a b c : CollectionKey}

/-- A key comes before another: by the rank of the module, and by the bytes of the setting within
one module. -/
def Before (a b : CollectionKey) : Prop :=
  a.kind.rank < b.kind.rank ∨ a.kind = b.kind ∧ a.bytes < b.bytes

instance (a b : CollectionKey) : Decidable (a.Before b) :=
  inferInstanceAs (Decidable (_ ∨ _))

/-- A setting can be told by its bytes. -/
theorem eq_of_bytes_eq (kind : a.kind = b.kind) (bytes : a.bytes = b.bytes) : a = b := by
  have setting : a.setting = b.setting :=
    String.toByteArray_inj.1 (ByteArray.ext (Array.toList_inj.1 bytes))
  cases a
  cases b
  congr

theorem not_before_self (a : CollectionKey) : ¬a.Before a := by
  rintro (less | ⟨-, less⟩)
  · exact Nat.lt_irrefl _ less
  · exact List.lt_irrefl _ less

theorem Before.trans (ab : a.Before b) (bc : b.Before c) : a.Before c := by
  rcases ab with ab | ⟨ab, ab'⟩ <;> rcases bc with bc | ⟨bc, bc'⟩
  · exact .inl (ab.trans bc)
  · exact .inl (bc ▸ ab)
  · exact .inl (ab ▸ bc)
  · exact .inr ⟨ab.trans bc, List.lt_trans ab' bc'⟩

theorem Before.not_before (h : a.Before b) : ¬b.Before a := by
  intro h'
  exact not_before_self a (h.trans h')

/-- A key comes before another, or it is the same key. -/
theorem le_iff : a.le b = true ↔ a.Before b ∨ a = b := by
  rw [le, decide_eq_true_eq]
  constructor
  · rintro (less | ⟨rank, bytes⟩)
    · exact .inl (.inl less)
    · have kind := CounterModule.rank_inj rank
      rcases List.le_iff_lt_or_eq.1 bytes with less | same
      · exact .inl (.inr ⟨kind, less⟩)
      · exact .inr (eq_of_bytes_eq kind same)
  · rintro ((less | ⟨kind, less⟩) | rfl)
    · exact .inl less
    · exact .inr ⟨congrArg _ kind, List.le_of_lt less⟩
    · exact .inr ⟨rfl, List.le_refl _⟩

end CollectionKey

namespace MetricCollections

/-- A key, and the collection under it. -/
abbrev Entry := CollectionKey × List TileMetric

variable {c c' : MetricCollections} {e : Entry} {es es' : List Entry}

/-- The collections after more of them were put, one by one. -/
def insertAll (c : MetricCollections) (inserts : List Entry) : MetricCollections :=
  inserts.foldl (fun c e => c.insert e.1 e.2) c

/-- The collections after some were put, one by one. -/
def ofInserts (inserts : List Entry) : MetricCollections :=
  empty.insertAll inserts

/-- The last collection that was put under a key. -/
def lastUnder (key : CollectionKey) (inserts : List Entry) : Option (List TileMetric) :=
  (inserts.reverse.find? fun e => e.1 = key).map Prod.snd

/-- The last collection under each key is the same. -/
def SameLast (inserts inserts' : List Entry) : Prop :=
  ∀ key, lastUnder key inserts = lastUnder key inserts'

theorem lastUnder_append (key : CollectionKey) (inserts later : List Entry) :
    lastUnder key (inserts ++ later) = (lastUnder key later).or (lastUnder key inserts) := by
  rw [lastUnder, List.reverse_append, List.find?_append, Option.map_or]
  rfl

theorem lastUnder_cons (key : CollectionKey) (e : Entry) (later : List Entry) :
    lastUnder key (e :: later) = (lastUnder key later).or (lastUnder key [e]) :=
  lastUnder_append key [e] later

theorem lastUnder_singleton (key : CollectionKey) (e : Entry) :
    lastUnder key [e] = if key = e.1 then some e.2 else none := by
  by_cases same : key = e.1
  · simp [lastUnder, same]
  · simp [lastUnder, same, Ne.symm same]

theorem isSome_lastUnder {key : CollectionKey} {inserts : List Entry} :
    (lastUnder key inserts).isSome = true ↔ key ∈ inserts.map Prod.fst := by
  simp [lastUnder]

/-- **The last collection under a key is the one that is found.** -/
theorem get?_insertAll (c : MetricCollections) (inserts : List Entry) (key : CollectionKey) :
    (c.insertAll inserts).get? key = (lastUnder key inserts).or (c.get? key) := by
  induction inserts generalizing c with
  | nil => rfl
  | cons e later ih =>
    have step : (c.insert e.1 e.2).get? key = (lastUnder key [e]).or (c.get? key) := by
      rw [get?_insert, lastUnder_singleton]
      by_cases same : key = e.1 <;> simp [same]
    calc (c.insertAll (e :: later)).get? key
        = (lastUnder key later).or ((c.insert e.1 e.2).get? key) := ih _
      _ = (lastUnder key (e :: later)).or (c.get? key) := by
        rw [step, lastUnder_cons key e later, Option.or_assoc]

theorem get?_ofInserts (inserts : List Entry) (key : CollectionKey) :
    (ofInserts inserts).get? key = lastUnder key inserts := by
  rw [ofInserts, get?_insertAll]
  exact Option.or_none

/-- There are as many collections as there are keys. -/
theorem size_ofInserts (inserts : List Entry) :
    (ofInserts inserts).size = (inserts.map Prod.fst).toFinset.card := by
  apply Table.size_eq_card
  intro key
  rw [List.mem_toFinset, ← isSome_lastUnder, ← get?_ofInserts]
  rfl

theorem mem_of_lastUnder {key : CollectionKey} {metrics : List TileMetric} {inserts : List Entry}
    (h : lastUnder key inserts = some metrics) : (key, metrics) ∈ inserts := by
  obtain ⟨e, found, rfl⟩ := Option.map_eq_some_iff.1 h
  have isKey := List.find?_some found
  rw [decide_eq_true_eq] at isKey
  subst isKey
  exact List.mem_reverse.1 (List.mem_of_find?_eq_some found)

/-- Where no key comes up twice, each collection is the last one under its key. -/
theorem lastUnder_eq_some_iff {inserts : List Entry} (distinct : (inserts.map Prod.fst).Nodup)
    {key : CollectionKey} {metrics : List TileMetric} :
    lastUnder key inserts = some metrics ↔ (key, metrics) ∈ inserts := by
  constructor
  · exact mem_of_lastUnder
  · intro mem
    obtain ⟨last, found⟩ := Option.isSome_iff_exists.1
      (isSome_lastUnder.2 (List.mem_map_of_mem mem))
    have same := List.inj_on_of_nodup_map distinct mem (mem_of_lastUnder found) rfl
    rw [found, (Prod.mk.inj same).2]

/-- Collections under distinct keys can be put in any order. -/
theorem sameLast_of_perm {inserts inserts' : List Entry}
    (distinct : (inserts.map Prod.fst).Nodup) (same : inserts.Perm inserts') :
    SameLast inserts inserts' := by
  have distinct' : (inserts'.map Prod.fst).Nodup := (same.map Prod.fst).nodup distinct
  intro key
  ext metrics
  rw [lastUnder_eq_some_iff distinct, lastUnder_eq_some_iff distinct', same.mem_iff]

/-- A collection may as well be left out if another one is put under its key later. -/
theorem sameLast_overwritten {after : List Entry} (later : e.1 ∈ after.map Prod.fst)
    (before : List Entry) : SameLast (before ++ e :: after) (before ++ after) := by
  intro key
  have ignored : lastUnder key (e :: after) = lastUnder key after := by
    rw [lastUnder_cons, lastUnder_singleton]
    by_cases same : key = e.1
    · subst same
      obtain ⟨last, found⟩ := Option.isSome_iff_exists.1 (isSome_lastUnder.2 later)
      rw [found, Option.some_or]
    · rw [if_neg same, Option.or_none]
  rw [lastUnder_append, lastUnder_append, ignored]

/-- The entries of a table, each of them once, in some order. -/
structure Enumerates (c : MetricCollections) (es : List Entry) : Prop where
  once : (es.map Prod.fst).Nodup
  mem_iff : ∀ key metrics, (key, metrics) ∈ es ↔ c.get? key = some metrics

/-- The entries of a table in ascending order. -/
structure ListsInOrder (c : MetricCollections) (es : List Entry) : Prop extends
    Enumerates c es where
  ascending : es.Pairwise fun a b => a.1.Before b.1

theorem enumerates_entries (c : MetricCollections) : Enumerates c c.table.entries where
  once := c.table.nodup
  mem_iff _ _ := Table.get?_eq_some_iff.symm

theorem Enumerates.of_perm (h : Enumerates c es) (same : es.Perm es') : Enumerates c es' where
  once := (same.map Prod.fst).nodup h.once
  mem_iff key metrics := by rw [← same.mem_iff, h.mem_iff]

/-- The entries are those of any table in which the same is found. -/
theorem Enumerates.congr (h : Enumerates c es) (same : ∀ key, c.get? key = c'.get? key) :
    Enumerates c' es where
  once := h.once
  mem_iff key metrics := by rw [h.mem_iff, same]

theorem Enumerates.perm (h : Enumerates c es) (h' : Enumerates c es') : es.Perm es' := by
  rw [List.perm_ext_iff_of_nodup h.once.of_map h'.once.of_map]
  rintro ⟨key, metrics⟩
  rw [h.mem_iff, h'.mem_iff]

/-- **There is one list of the entries in ascending order.** -/
theorem ListsInOrder.unique (h : ListsInOrder c es) (h' : ListsInOrder c es') : es = es' := by
  apply List.Perm.eq_of_pairwise _ h.ascending h'.ascending (h.toEnumerates.perm h'.toEnumerates)
  intro a b _ _ before after
  exact absurd after before.not_before

/-- The order of entries. -/
def entryLe (a b : Entry) : Bool :=
  a.1.le b.1

/-- A sorted map with one entry more: in place of the one under its key, or else in front of the
first that it comes before. -/
def putInOrder (e : Entry) : List Entry → List Entry
  | [] => [e]
  | first :: es =>
    if e.1.Before first.1 then e :: first :: es
    else if e.1 = first.1 then e :: es
    else first :: putInOrder e es

/-- The sorted map into which entries were taken up, one by one. -/
def inOrder (es : List Entry) : List Entry :=
  es.foldl (fun sorted e => putInOrder e sorted) []

theorem putInOrder_eq_insertBy (new : e.1 ∉ es.map Prod.fst) :
    putInOrder e es = insertBy entryLe e es := by
  induction es with
  | nil => rfl
  | cons first es ih =>
    rw [List.map_cons, List.mem_cons, not_or] at new
    have le : entryLe e first = true ↔ e.1.Before first.1 :=
      CollectionKey.le_iff.trans (or_iff_left new.1)
    rw [putInOrder, insertBy, if_neg new.1, ih new.2]
    by_cases before : e.1.Before first.1
    · rw [if_pos before, if_pos (le.2 before)]
    · rw [if_neg before, if_neg (mt le.1 before)]

/-- Entries that are taken up one by one are sorted. -/
theorem inOrder_eq_sortBy (distinct : (es.map Prod.fst).Nodup) :
    inOrder es = sortBy entryLe es.reverse := by
  induction es using List.reverseRecOn with
  | nil => rfl
  | append_singleton es e ih =>
    rw [List.map_append, List.nodup_append] at distinct
    obtain ⟨distinct, -, apart⟩ := distinct
    have sorted := ih distinct
    have new : e.1 ∉ (sortBy entryLe es.reverse).map Prod.fst := by
      rw [((sortBy_perm entryLe es.reverse).map Prod.fst).mem_iff, List.map_reverse,
        List.mem_reverse]
      intro mem
      exact apart e.1 mem e.1 List.mem_cons_self rfl
    rw [List.reverse_append]
    calc inOrder (es ++ [e]) = putInOrder e (inOrder es) := List.foldl_concat ..
      _ = insertBy entryLe e (sortBy entryLe es.reverse) := by
        rw [sorted, putInOrder_eq_insertBy new]

theorem pairwise_sortBy_entryLe (es : List Entry) :
    (sortBy entryLe es).Pairwise fun a b => entryLe a b = true := by
  apply pairwise_sortBy
  · intro a b c ab bc
    exact CollectionKey.le_trans ab bc
  · intro a b
    exact CollectionKey.le_total a.1 b.1

/-- The entries of a table are in ascending order when they are sorted. -/
theorem Enumerates.listsInOrder_sortBy (h : Enumerates c es) :
    ListsInOrder c (sortBy entryLe es) where
  toEnumerates := h.of_perm (sortBy_perm entryLe es).symm
  ascending := by
    have ascending := pairwise_sortBy_entryLe es
    have apart : (sortBy entryLe es).Pairwise fun a b => a.1 ≠ b.1 :=
      List.pairwise_map.1 (h.of_perm (sortBy_perm entryLe es).symm).once
    exact ascending.imp₂ (fun _ _ le ne => (CollectionKey.le_iff.1 le).resolve_right ne) apart

/-- **Every way to take up the entries of a table** ends with the list in ascending order. -/
theorem Enumerates.listsInOrder_inOrder (h : Enumerates c es) : ListsInOrder c (inOrder es) := by
  rw [inOrder_eq_sortBy h.once]
  exact (h.of_perm (List.reverse_perm es).symm).listsInOrder_sortBy

theorem ListsInOrder.ordered_eq (h : ListsInOrder c es) :
    c.ordered = (es.map Prod.snd).flatten := by
  rw [h.unique (enumerates_entries c).listsInOrder_sortBy]
  rfl

/-- What flattening gives is what the collections give that stand in ascending order. -/
theorem ListsInOrder.metricSets_eq (h : ListsInOrder c es) :
    c.metricSets = MetricSets.ofModules (es.map Prod.snd) := by
  rw [MetricSets.ofModules_eq, ← h.ordered_eq]
  rfl

theorem ListsInOrder.conflicts_eq (h : ListsInOrder c es) :
    c.conflicts = MetricSets.empty.conflictsOf (es.map Prod.snd) := by
  rw [MetricSets.conflictsOf_eq, ← h.ordered_eq]
  rfl

/-- The collections that were put one by one: the last under each key, and as many as keys. -/
structure KeepsLast (inserts : List Entry) : Prop where
  get? : ∀ key, (ofInserts inserts).get? key = lastUnder key inserts
  size : (ofInserts inserts).size = (inserts.map Prod.fst).toFinset.card

/-- Collections from which the same metric sets come out, with the same conflicts. -/
structure FlattenAlike (c c' : MetricCollections) : Prop where
  lookup : ∀ tile, c.metricSets.lookup tile = c'.metricSets.lookup tile
  size : c.metricSets.size = c'.metricSets.size
  conflicts : c.conflicts = c'.conflicts

/-- The entries of collections in ascending order, and the metric sets that come out: those that the
entries name one after the other. -/
structure FlattensTo (c : MetricCollections) (es : List Entry) : Prop extends
    ListsInOrder c es where
  metricSets : c.metricSets = MetricSets.ofModules (es.map Prod.snd)
  conflicts : c.conflicts = MetricSets.empty.conflictsOf (es.map Prod.snd)

/-- Flattening does not depend on more than what is found under each key. -/
theorem flattenAlike (same : ∀ key, c.get? key = c'.get? key) : FlattenAlike c c' := by
  have here : ListsInOrder c (sortBy entryLe c.table.entries) :=
    (enumerates_entries c).listsInOrder_sortBy
  have there : ListsInOrder c' (sortBy entryLe c.table.entries) :=
    ((enumerates_entries c).congr same).listsInOrder_sortBy
  have sets : c.metricSets = c'.metricSets := by rw [here.metricSets_eq, there.metricSets_eq]
  have conflicts : c.conflicts = c'.conflicts := by rw [here.conflicts_eq, there.conflicts_eq]
  exact ⟨fun tile => by rw [sets], by rw [sets], conflicts⟩

/-- **Flattening collections** depends only on the last collection under each key, so that neither
the order in which they were put nor the order in which a table goes through its entries matters. -/
theorem flatten_ofInserts :
    (∀ inserts : List Entry, KeepsLast inserts) ∧
    (∀ inserts inserts' : List Entry, SameLast inserts inserts' →
      FlattenAlike (ofInserts inserts) (ofInserts inserts')) ∧
    (∀ inserts inserts' : List Entry, (inserts.map Prod.fst).Nodup → inserts.Perm inserts' →
      SameLast inserts inserts') ∧
    (∀ (before : List Entry) (e : Entry) (after : List Entry), e.1 ∈ after.map Prod.fst →
      SameLast (before ++ e :: after) (before ++ after)) ∧
    ∀ inserts es : List Entry, Enumerates (ofInserts inserts) es →
      FlattensTo (ofInserts inserts) (inOrder es) := by
  refine ⟨?_, ?_, ?_, ?_, ?_⟩
  · intro inserts
    exact ⟨get?_ofInserts inserts, size_ofInserts inserts⟩
  · intro inserts inserts' same
    apply flattenAlike
    intro key
    rw [get?_ofInserts, get?_ofInserts, same key]
  · intro inserts inserts' distinct same
    exact sameLast_of_perm distinct same
  · intro before e after later
    exact sameLast_overwritten later before
  · intro inserts es enumerated
    have sorted := enumerated.listsInOrder_inOrder
    exact ⟨sorted, sorted.metricSets_eq, sorted.conflicts_eq⟩

/-- The collections of the core come first, those for graphs before those for tiles. -/
theorem flatten_ofInserts_overwritten :
    FlattenAlike
      (ofInserts [(⟨.core, "tiles"⟩, []), (⟨.interfaceTile, "tiles"⟩, [⟨⟨0, 0⟩, "ddr_bandwidth"⟩]),
        (⟨.core, "tiles"⟩, [⟨⟨0, 0⟩, "heat_map"⟩])])
      (ofInserts [(⟨.core, "tiles"⟩, [⟨⟨0, 0⟩, "heat_map"⟩]),
        (⟨.interfaceTile, "tiles"⟩, [⟨⟨0, 0⟩, "ddr_bandwidth"⟩])]) ∧
    FlattensTo
      (ofInserts [(⟨.interfaceTile, "tiles"⟩, [⟨⟨0, 0⟩, "ddr_bandwidth"⟩]), (⟨.core, "tiles"⟩, []),
        (⟨.core, "graphs"⟩, [⟨⟨0, 0⟩, "heat_map"⟩])])
      [(⟨.core, "graphs"⟩, [⟨⟨0, 0⟩, "heat_map"⟩]), (⟨.core, "tiles"⟩, []),
        (⟨.interfaceTile, "tiles"⟩, [⟨⟨0, 0⟩, "ddr_bandwidth"⟩])] := by
  obtain ⟨-, alike, reordered, overwritten, flattened⟩ := flatten_ofInserts
  constructor
  · apply alike
    intro key
    refine (overwritten [] _ _ ?_ key).trans (reordered _ _ ?_ ?_ key) <;> decide
  · exact flattened _ _ (enumerates_entries _)

end MetricCollections

/-- Putting collections is what the steps of a session do, and they change nothing else. -/
theorem Session.run_putCollection (s : Session) (inserts : List MetricCollections.Entry) :
    (s.run (inserts.map fun e => .putCollection e.1 e.2)).2.1
      = { s with collections := s.collections.insertAll inserts } := by
  induction inserts generalizing s with
  | nil => rfl
  | cons e later ih => exact ih { s with collections := s.collections.insert e.1 e.2 }

end CounterTrace
