import CounterTrace.Generator.Basic
import CounterTrace.Proofs.Literals
import Mathlib.Data.List.Forall2

/-!
# What a script tells of payloads

The payload of a counter goes into a script only as a direction, and only where the metric set of
the counter's tile is one of the three that leave the direction to the payload; there its bit 8
decides.  Two scripts for counters that differ in their payloads are the same if and only if these
bits are the same.

That a direction shows in the text is seen where the two scripts first differ.  Up to there they are
equal character by character, whatever the names and titles in them are, and then one goes on with
the name of one direction and the other with that of the other.
-/

namespace CounterTrace

open Text (quoted toList_unlines unlines)

/-- The bit that marks the master of a stream is bit 8. -/
theorem isMaster_eq_testBit (payload : UInt64) : isMaster payload = payload.toNat.testBit 8 := by
  have shift : masterBit.toNat % 64 = 8 := by decide
  rw [isMaster, Nat.testBit, Bool.eq_iff_iff, beq_iff_eq, ← UInt64.toNat_inj, UInt64.toNat_and,
    UInt64.toNat_shiftRight, shift]
  simp [Nat.and_comm]

namespace Direction

variable {metricSet : String}

/-- The metric sets that leave the direction to the payload all have one. -/
theorem ofMetricSet?_of_mem (h : metricSet ∈ payloadMetricSets) (payload : UInt64) :
    ofMetricSet? metricSet payload
      = some (if payload.toNat.testBit 8 then .output else .input) := by
  have bandwidth : ∀ name ∈ payloadMetricSets, isThroughput name = true := by decide +kernel
  rw [ofMetricSet?, bandwidth metricSet h, if_neg (by decide), if_pos h, isMaster_eq_testBit]

/-- For any other metric set the payload makes no difference. -/
theorem ofMetricSet?_of_notMem (h : metricSet ∉ payloadMetricSets) (payload payload' : UInt64) :
    ofMetricSet? metricSet payload = ofMetricSet? metricSet payload' := by
  rw [ofMetricSet?, ofMetricSet?, if_neg h, if_neg h]

/-- **What a direction tells of a payload.** -/
theorem ofMetricSet?_eq_iff {payload payload' : UInt64} :
    ofMetricSet? metricSet payload = ofMetricSet? metricSet payload' ↔
      (metricSet ∈ payloadMetricSets → payload.toNat.testBit 8 = payload'.toNat.testBit 8) := by
  by_cases mem : metricSet ∈ payloadMetricSets
  · rw [ofMetricSet?_of_mem mem, ofMetricSet?_of_mem mem]
    cases payload.toNat.testBit 8 <;> cases payload'.toNat.testBit 8 <;> simp [mem]
  · simp [mem, ofMetricSet?_of_notMem mem payload payload']

/-- Whether there is a direction at all is told by the metric set. -/
theorem isSome_ofMetricSet? (metricSet : String) (payload payload' : UInt64) :
    (ofMetricSet? metricSet payload).isSome = (ofMetricSet? metricSet payload').isSome := by
  by_cases mem : metricSet ∈ payloadMetricSets
  · rw [ofMetricSet?_of_mem mem, ofMetricSet?_of_mem mem, Option.isSome_some, Option.isSome_some]
  · rw [ofMetricSet?_of_notMem mem payload payload']

end Direction

/-- The metric set of a tile is one of those that leave the direction to the payload. -/
def MetricSets.IsPayloadDirected (sets : MetricSets) (tile : Tile) : Prop :=
  ∃ name ∈ ["ddr_bandwidth", "read_bandwidth", "write_bandwidth"], sets.lookup tile = some name

instance (sets : MetricSets) (tile : Tile) : Decidable (sets.IsPayloadDirected tile) :=
  inferInstanceAs (Decidable (∃ name ∈ _, _))

/-- The counters are equal but for their payloads. -/
structure Counter.SameButPayload (c c' : Counter) : Prop where
  tile : c.tile = c'.tile
  number : c.number = c'.number
  moduleName : c.moduleName = c'.moduleName

/-- The descriptors are equal but for their directions, and both have one or neither has. -/
structure Descriptor.SameButDirection (d d' : Descriptor) : Prop where
  eq_withDirection : d' = { d with direction := d'.direction }
  isSome_eq : d.direction.isSome = d'.direction.isSome

namespace Resolver

variable (resolver : Resolver) {c c' : Counter}

theorem direction_describe (c : Counter) :
    (resolver.describe c).direction =
      (resolver.metricSets.lookup c.tile).bind (Direction.ofMetricSet? · c.payload) :=
  rfl

/-- Nothing but the direction of a counter depends on its payload. -/
theorem sameButDirection_describe (same : c.SameButPayload c') :
    (resolver.describe c).SameButDirection (resolver.describe c') := by
  obtain ⟨tile, number, moduleName⟩ := same
  constructor
  case eq_withDirection => rw [describe, describe, tile, number, moduleName]
  case isSome_eq =>
    rw [direction_describe, direction_describe, tile]
    cases resolver.metricSets.lookup c'.tile with
    | none => rfl
    | some name => exact Direction.isSome_ofMetricSet? name c.payload c'.payload

/-- **What a descriptor tells of a payload**: bit 8, and only if the metric set of the tile leaves
the direction to the payload. -/
theorem describe_eq_iff (same : c.SameButPayload c') :
    resolver.describe c = resolver.describe c' ↔
      (resolver.metricSets.IsPayloadDirected c.tile →
        c.payload.toNat.testBit 8 = c'.payload.toNat.testBit 8) := by
  have directions : resolver.describe c = resolver.describe c' ↔
      (resolver.describe c).direction = (resolver.describe c').direction := by
    constructor
    · intro equal
      rw [equal]
    · intro equal
      rw [(sameButDirection_describe resolver same).eq_withDirection, ← equal]
  rw [directions, direction_describe, direction_describe, ← same.tile, MetricSets.IsPayloadDirected]
  cases resolver.metricSets.lookup c.tile with
  | none => simp
  | some name =>
    have named : (∃ n ∈ ["ddr_bandwidth", "read_bandwidth", "write_bandwidth"],
        some name = some n) ↔ name ∈ payloadMetricSets := by
      simp [payloadMetricSets]
    rw [named]
    exact Direction.ofMetricSet?_eq_iff

/-- The descriptors of two lists of counters are equal if they are so place by place. -/
theorem map_describe_eq_iff {cs cs' : List Counter}
    (same : List.Forall₂ Counter.SameButPayload cs cs') :
    cs.map resolver.describe = cs'.map resolver.describe ↔
      ∀ (i : Nat) c c', cs[i]? = some c → cs'[i]? = some c' →
        resolver.metricSets.IsPayloadDirected c.tile →
          c.payload.toNat.testBit 8 = c'.payload.toNat.testBit 8 := by
  induction same with
  | nil => simp
  | @cons first first' rest rest' sameFirst _ ih =>
    rw [List.map_cons, List.map_cons, List.cons.injEq, describe_eq_iff resolver sameFirst, ih]
    constructor
    · intro equal i c c' at_i at_i'
      cases i with
      | zero =>
        obtain rfl : first = c := by simpa using at_i
        obtain rfl : first' = c' := by simpa using at_i'
        exact equal.1
      | succ i => exact equal.2 i c c' (by simpa using at_i) (by simpa using at_i')
    · intro equal
      refine ⟨equal 0 first first' rfl rfl, ?_⟩
      intro i c c' at_i at_i'
      exact equal (i + 1) c c' (by simpa using at_i) (by simpa using at_i')

end Resolver

namespace Script

/-- The names of the directions differ in their first letter. -/
theorem entryEnd_append_inj {d e : Descriptor} (isSome_eq : d.direction.isSome = e.direction.isSome)
    {r s : List Char} (h : (entryEnd d).toList ++ r = (entryEnd e).toList ++ s) :
    d.direction = e.direction := by
  have input : quoted Direction.input.name = "\"input\"" := by decide
  have output : quoted Direction.output.name = "\"output\"" := by decide
  rw [entryEnd, entryEnd] at h
  cases hd : d.direction with
  | none =>
    cases he : e.direction with
    | none => rfl
    | some direction' => simp [hd, he] at isSome_eq
  | some direction =>
    cases he : e.direction with
    | none => simp [hd, he] at isSome_eq
    | some direction' =>
      cases direction <;> cases direction' <;> simp [hd, he, field, input, output] at h ⊢

/-- The entry of a counter depends on the direction only at its end. -/
theorem counterEntry_withDirection (d : Descriptor) (direction : Option Direction) :
    counterEntry { d with direction } = entryStart d ++ quoted d.moduleName ++ entryAddress d
      ++ entryMetricSet d ++ entryEnd { d with direction } :=
  counterEntry_eq { d with direction }

/-- **A direction shows in the entry of a counter**, whatever comes behind the entry. -/
theorem counterEntry_append_inj {d e : Descriptor} (same : d.SameButDirection e) {r s : List Char}
    (h : (counterEntry d).toList ++ r = (counterEntry e).toList ++ s) : d = e ∧ r = s := by
  have ends := h
  rw [same.eq_withDirection, counterEntry_eq d, counterEntry_withDirection] at ends
  simp only [String.toList_append, List.append_assoc, List.append_cancel_left_eq] at ends
  have direction : d.direction = e.direction :=
    entryEnd_append_inj (e := { d with direction := e.direction }) same.isSome_eq ends
  obtain rfl : d = e := by rw [same.eq_withDirection, ← direction]
  exact ⟨rfl, List.append_cancel_left h⟩

/-- The text of a list of one item. -/
theorem toList_unlines_itemLines_singleton (item : String) :
    (unlines (itemLines [item])).toList = item.toList ++ ['\n'] := by
  simp [itemLines]

/-- The text of a list of more items than one begins with the first. -/
theorem toList_unlines_itemLines_cons (item next : String) (items : List String) :
    (unlines (itemLines (item :: next :: items))).toList
      = item.toList ++ ',' :: '\n' :: (unlines (itemLines (next :: items))).toList := by
  simp [itemLines]

/-- **Directions show in a list of counters.**  The entries are read off one by one as long as the
counters are equal; the first two that are not have directions that differ. -/
theorem counterEntries_append_inj {ds es : List Descriptor}
    (same : List.Forall₂ Descriptor.SameButDirection ds es) {r s : List Char}
    (h : (unlines (itemLines (ds.map counterEntry))).toList ++ r
      = (unlines (itemLines (es.map counterEntry))).toList ++ s) : ds = es := by
  induction same with
  | nil => rfl
  | @cons d e ds es first rest ih =>
    cases rest with
    | nil =>
      simp only [List.map_cons, List.map_nil, toList_unlines_itemLines_singleton,
        List.append_assoc] at h
      obtain ⟨equal, -⟩ := counterEntry_append_inj first h
      rw [equal]
    | cons second rest =>
      simp only [List.map_cons, toList_unlines_itemLines_cons, List.append_assoc,
        List.cons_append] at h
      obtain ⟨equal, behind⟩ := counterEntry_append_inj first h
      simp only [List.cons.injEq, true_and] at behind
      rw [equal, ih behind]

/-- What is in front of the list of all counters does not depend on them, so the list is where
scripts of the same words begin to differ. -/
theorem counters_eq_of_text_eq {config : Config} {ds es : List Descriptor}
    {blocks blocks' : List Block} (same : List.Forall₂ Descriptor.SameButDirection ds es)
    (h : text ⟨config, ds, blocks⟩ = text ⟨config, es, blocks'⟩) : ds = es := by
  replace h := congrArg String.toList h
  simp only [text, lines, beginLines, toList_unlines, List.flatMap_append, List.append_assoc,
    List.append_cancel_left_eq] at h
  rw [← toList_unlines (itemLines (ds.map counterEntry)),
    ← toList_unlines (itemLines (es.map counterEntry))] at h
  exact counterEntries_append_inj same h

end Script

namespace Generator

/-- **What a script tells of payloads.**  For counters that are equal but for their payloads the
scripts are the same if and only if bit 8 is the same in the payloads of those counters whose tile
has a metric set that leaves the direction to the payload. -/
theorem text_script_eq_iff (g : Generator) (other : DeviceCounters) (records : List Instrumentation)
    (same : List.Forall₂ Counter.SameButPayload g.counters.toList other.toList) :
    (g.script records).text = ({ g with counters := other }.script records).text ↔
      ∀ (i : Nat) c c', g.counters.toList[i]? = some c → other.toList[i]? = some c' →
        g.resolver.metricSets.IsPayloadDirected c.tile →
          c.payload.toNat.testBit 8 = c'.payload.toNat.testBit 8 := by
  have described : List.Forall₂ Descriptor.SameButDirection
      (g.counters.toList.map g.resolver.describe) (other.toList.map g.resolver.describe) := by
    rw [List.forall₂_map_left_iff, List.forall₂_map_right_iff]
    exact same.imp fun _ _ => Resolver.sameButDirection_describe g.resolver
  rw [← Resolver.map_describe_eq_iff g.resolver same]
  constructor
  · intro texts
    exact Script.counters_eq_of_text_eq described texts
  · intro descriptors
    simp only [script, Resolver.resolve, descriptors]

/-- A control program with a probe. -/
def probed : Instrumentation :=
  ⟨"/d", "aie_runtime_control0.asm", 0, 0, 0, 3, [⟨5, noIndex⟩]⟩

/-- A generator for a tile whose counters have their directions in their payloads and for another,
whose metric set just has a name that speaks of these. -/
def twoTiles (payload payload' : UInt64) : Generator where
  config := {}
  resolver :=
    { shifts := .aie2ps
      metricSets := MetricSets.empty.insertAll
        [⟨⟨1, 0⟩, "read_bandwidth"⟩, ⟨⟨0, 2⟩, "output_read_bandwidth"⟩] }
  device := 0
  counters :=
    ((CounterStore.empty.push 0 ⟨⟨1, 0⟩, 0, "interface_tile", payload⟩).push 0
      ⟨⟨0, 2⟩, 0, "aie", payload'⟩).onDevice 0

theorem sameButPayload_twoTiles (p q p' q' : UInt64) :
    List.Forall₂ Counter.SameButPayload (twoTiles p q).counters.toList
      (twoTiles p' q').counters.toList :=
  .cons ⟨rfl, rfl, rfl⟩ (.cons ⟨rfl, rfl, rfl⟩ .nil)

/-- The payloads of the first two runs have bit 8 in common where it matters, and hardly another
bit; those of the third differ from the first in just that bit. -/
theorem text_script_eq_iff_twoTiles :
    List.Forall₂ Counter.SameButPayload (twoTiles 0x1FF 0).counters.toList
        (twoTiles 0x100 0x100).counters.toList ∧
      ((twoTiles 0x1FF 0).script [probed]).text = ((twoTiles 0x100 0x100).script [probed]).text ∧
      List.Forall₂ Counter.SameButPayload (twoTiles 0x1FF 0).counters.toList
        (twoTiles 0x0FF 0).counters.toList ∧
      ((twoTiles 0x1FF 0).script [probed]).text ≠ ((twoTiles 0x0FF 0).script [probed]).text := by
  have same := sameButPayload_twoTiles 0x1FF 0 0x100 0x100
  have same' := sameButPayload_twoTiles 0x1FF 0 0x0FF 0
  have bits := (Resolver.map_describe_eq_iff (twoTiles 0x1FF 0).resolver same).1 (by decide +kernel)
  refine ⟨same, (text_script_eq_iff _ _ [probed] same).2 bits, same', ?_⟩
  intro texts
  have bit := (text_script_eq_iff _ _ [probed] same').1 texts 0 _ _ rfl rfl (by decide)
  exact absurd bit (by decide)

end Generator

end CounterTrace
