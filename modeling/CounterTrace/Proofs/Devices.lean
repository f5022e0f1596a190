import CounterTrace.Proofs.Ownership
import CounterTrace.Session.Run

/-!
# Devices and their counters

Counters are pushed for one device or another in any order.  What a device shows of them is what was
pushed for it, in the order in which it was pushed: the pushes for other devices might as well not
have been.  So the script for a device does not depend on them either.
-/

namespace CounterTrace

/-- A device shows exactly the given counters, in their order. -/
structure DeviceCounters.Shows (d : DeviceCounters) (counters : List Counter) : Prop where
  /-- Their number is what the device gives as the number of its counters. -/
  count : d.count = counters.length
  /-- Each is at its index. -/
  present : ∀ i (h : i < counters.length), d.counter? i = some counters[i]
  /-- There is none at any other index. -/
  absent : ∀ i, counters.length ≤ i → d.counter? i = none
  /-- However counters are described, the descriptors are theirs. -/
  resolved : ∀ resolver : Resolver, resolver.resolve d = counters.map resolver.describe

namespace CounterStore

variable {s t : CounterStore} {device : UInt64}

/-- A device shows the counters that a store has for it. -/
theorem shows_onDevice (s : CounterStore) (device : UInt64) :
    (s.onDevice device).Shows (s.counters device) where
  count := rfl
  present _ h := List.getElem?_eq_getElem h
  absent _ h := List.getElem?_eq_none h
  resolved resolver := by rw [Resolver.resolve, toList_onDevice]

/-- Nothing else is to be seen of a store through a device. -/
theorem onDevice_congr (same : s.counters device = t.counters device) :
    s.onDevice device = t.onDevice device := by
  rw [onDevice, onDevice, same]

/-- The store after some counters are pushed one by one, each for a device. -/
def pushAll (s : CounterStore) (pushes : List (UInt64 × Counter)) : CounterStore :=
  pushes.foldl (fun s push => s.push push.1 push.2) s

/-- The counters among some pushes that are for a device, in the order of the pushes. -/
def pushedFor (device : UInt64) (pushes : List (UInt64 × Counter)) : List Counter :=
  (pushes.filter fun push => decide (push.1 = device)).map Prod.snd

theorem length_pushedFor (device : UInt64) (pushes : List (UInt64 × Counter)) :
    (pushedFor device pushes).length = pushes.countP fun push => decide (push.1 = device) := by
  rw [pushedFor, List.length_map, List.countP_eq_length_filter]

/-- **The counters of a device after some pushes** are those that it had and, behind them, those
pushed for it. -/
theorem counters_pushAll (s : CounterStore) (pushes : List (UInt64 × Counter)) (device : UInt64) :
    (s.pushAll pushes).counters device = s.counters device ++ pushedFor device pushes := by
  induction pushes generalizing s with
  | nil =>
    rw [pushedFor, List.filter_nil, List.map_nil, List.append_nil]
    rfl
  | cons push pushes ih =>
    have first := counters_push s push.1 device push.2
    have rest := ih (s.push push.1 push.2)
    rw [first] at rest
    refine rest.trans ?_
    by_cases mine : push.1 = device
    · simp [pushedFor, mine]
    · have other : ¬device = push.1 := fun same => mine same.symm
      simp [pushedFor, mine, other]

end CounterStore

open CounterStore (pushedFor)

namespace Session

/-- The session with the counters of some pushes, and no others. -/
def withPushes (s : Session) (pushes : List (UInt64 × Counter)) : Session :=
  { s with counters := CounterStore.empty.pushAll pushes }

/-- Pushing counters is what the steps of a session do, and they do nothing else. -/
theorem run_addCounter (s : Session) (pushes : List (UInt64 × Counter)) :
    (s.run (pushes.map fun push => .addCounter push.1 push.2)).2.1
      = { s with counters := s.counters.pushAll pushes } := by
  induction pushes generalizing s with
  | nil => rfl
  | cons push pushes ih => exact ih { s with counters := s.counters.push push.1 push.2 }

variable {s : Session} {device : UInt64}

/-- A run for a device wants to know of a store only what the device shows. -/
theorem generate_congr {store store' : CounterStore}
    (same : store.counters device = store'.counters device) :
    ({ s with counters := store } : Session).generate device
      = ({ s with counters := store' } : Session).generate device := by
  have shown : store.onDevice device = store'.onDevice device := CounterStore.onDevice_congr same
  have generators : generatorWith { s with counters := store } device
      = generatorWith { s with counters := store' } device := by
    funext shifts
    simp only [generatorWith, shown]
  simp only [generate, generator, generators]

/-- **Devices are apart.**  After any pushes for any devices, a device shows exactly the counters
that were pushed for it, in the order in which they were; and if other pushes leave the device with
the same counters, then in a session that is the same otherwise, a run for the device has the same
answer and leaves the same files. -/
theorem generate_withPushes (s : Session) (pushes : List (UInt64 × Counter)) (device : UInt64) :
    ((s.withPushes pushes).counters.onDevice device).count
        = pushes.countP (fun push => decide (push.1 = device)) ∧
      ((s.withPushes pushes).counters.onDevice device).Shows (pushedFor device pushes) ∧
      ∀ pushes', pushedFor device pushes' = pushedFor device pushes →
        ((s.withPushes pushes').step (.generate device)).answer
            = ((s.withPushes pushes).step (.generate device)).answer ∧
          ((s.withPushes pushes').step (.generate device)).session.files
            = ((s.withPushes pushes).step (.generate device)).session.files := by
  have counters (pushes : List (UInt64 × Counter)) :
      (CounterStore.empty.pushAll pushes).counters device = pushedFor device pushes :=
    CounterStore.counters_pushAll _ pushes device
  have shows_pushed := (s.withPushes pushes).counters.shows_onDevice device
  rw [withPushes, counters] at shows_pushed
  refine ⟨shows_pushed.count.trans (CounterStore.length_pushedFor device pushes), shows_pushed, ?_⟩
  intro pushes' same
  have runs : (s.withPushes pushes').generate device = (s.withPushes pushes).generate device := by
    apply generate_congr
    rw [counters, counters, same]
  have outcomes := congrArg Generator.Run.outcome runs
  exact ⟨congrArg (outcomeAnswer s.config.script.title) outcomes, congrArg Generator.Run.files runs⟩

/-- Pushes for two devices in turn. -/
def betweenOthers : List (UInt64 × Counter) :=
  [(7, ⟨⟨0, 2⟩, 0, "aie", 0⟩), (1, ⟨⟨4, 2⟩, 0, "aie", 0⟩), (7, ⟨⟨0, 2⟩, 1, "aie", 0⟩),
    (1, ⟨⟨4, 3⟩, 0, "mystery", 256⟩)]

theorem generate_withPushes_betweenOthers :
    pushedFor 1 (betweenOthers.drop 1) = pushedFor 1 betweenOthers ∧
      ((twoPrograms.withPushes betweenOthers).counters.onDevice 1).count = 2 ∧
      ((twoPrograms.withPushes betweenOthers).step (.generate 1)).answer
        = .report ⟨"w/aie_profile.ct", 2, 2, 1⟩ "AIE Profile" ∧
      ((twoPrograms.withPushes (betweenOthers.drop 1)).step (.generate 1)).answer
        = .report ⟨"w/aie_profile.ct", 2, 2, 1⟩ "AIE Profile" := by
  have same : pushedFor 1 (betweenOthers.drop 1) = pushedFor 1 betweenOthers := rfl
  obtain ⟨count, -, apart⟩ := generate_withPushes twoPrograms betweenOthers 1
  have succeeds : ((twoPrograms.withPushes betweenOthers).step (.generate 1)).answer
      = .report ⟨"w/aie_profile.ct", 2, 2, 1⟩ "AIE Profile" := rfl
  exact ⟨same, count, succeeds, (apart _ same).1.trans succeeds⟩

end Session

end CounterTrace
