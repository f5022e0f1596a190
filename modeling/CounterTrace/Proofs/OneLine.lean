import CounterTrace.Proofs.Literals

/-!
# Lines that stay on one line

The lines of a script are told from its text by the line feeds between them, so no line may have
one in it.  Numbers have none, and escaping neither adds nor takes any away; what is left are the
values that a configuration or a manifest chooses.
-/

namespace CounterTrace.Script

open Text (escaped quoted)

/-- No line feed in a text, so that it stays on one line. -/
def IsLine (s : String) : Prop :=
  '\n' ∉ s.toList

instance : DecidablePred IsLine :=
  fun s => inferInstanceAs (Decidable ('\n' ∉ s.toList))

theorem isLine_append {s t : String} : IsLine (s ++ t) ↔ IsLine s ∧ IsLine t := by
  simp [IsLine]

theorem isLine_escaped {s : String} : IsLine (escaped s) ↔ IsLine s := by
  rw [IsLine, IsLine, Text.toList_escaped, Text.mem_escape_of_ne (by decide)]

theorem isLine_quoted {s : String} : IsLine (quoted s) ↔ IsLine s := by
  have quote : IsLine "\"" := by decide
  rw [quoted, isLine_append, isLine_append, isLine_escaped]
  simp only [quote, true_and, and_true]

theorem isLine_toString (n : Nat) : IsLine (toString n) :=
  Text.notMem_toString (by decide) n

theorem isLine_formatAddress (address : UInt64) : IsLine (formatAddress address) := by
  refine isLine_append.2 ⟨by decide, fun mem => ?_⟩
  rw [String.toList_ofList] at mem
  obtain ⟨d, -, hd⟩ := Text.exists_digit_of_mem_paddedHex mem
  simp at hd

theorem isLine_intercalate {sep : String} {items : List String} (hsep : IsLine sep)
    (h : ∀ item ∈ items, IsLine item) : IsLine (sep.intercalate items) := by
  induction items with
  | nil => simp [IsLine]
  | cons first items ih =>
    obtain ⟨hfirst, hitems⟩ := List.forall_mem_cons.1 h
    cases items with
    | nil => simpa using hfirst
    | cons second items =>
      rw [String.intercalate_cons_cons, isLine_append, isLine_append]
      exact ⟨⟨hfirst, hsep⟩, ih hitems⟩

theorem isLine_itemLine {items : List String} (h : ∀ item ∈ items, IsLine item) {line : String}
    (mem : line ∈ itemLines items) : IsLine line := by
  obtain ⟨item, isItem, rfl | rfl⟩ := mem_itemLines mem
  · exact h line isItem
  · exact isLine_append.2 ⟨h item isItem, by decide⟩

theorem isLine_object {fields : List String} (h : ∀ f ∈ fields, IsLine f) :
    IsLine (object fields) := by
  rw [object, isLine_append, isLine_append]
  exact ⟨⟨by decide, isLine_intercalate (by decide) h⟩, by decide⟩

theorem isLine_field {name value : String} (hname : IsLine name) (hvalue : IsLine value) :
    IsLine (field name value) := by
  rw [field, isLine_append, isLine_append, isLine_quoted]
  exact ⟨⟨hname, by decide⟩, hvalue⟩

theorem isLine_counterEntry {d : Descriptor} (moduleName : IsLine d.moduleName)
    (metricSet : ∀ name ∈ d.metricSet, IsLine name) : IsLine (counterEntry d) := by
  refine isLine_object fun f mem => ?_
  simp only [List.mem_append, List.mem_cons, List.not_mem_nil, or_false, Option.mem_toList,
    Option.map_eq_some_iff] at mem
  rcases mem with ((rfl | rfl | rfl | rfl | rfl) | ⟨name, isSet, rfl⟩) | ⟨direction, -, rfl⟩
  · exact isLine_field (by decide) (isLine_toString _)
  · exact isLine_field (by decide) (isLine_toString _)
  · exact isLine_field (by decide) (isLine_toString _)
  · exact isLine_field (by decide) (isLine_quoted.2 moduleName)
  · exact isLine_field (by decide) (isLine_quoted.2 (isLine_formatAddress _))
  · exact isLine_field (by decide) (isLine_quoted.2 (metricSet name isSet))
  · exact isLine_field (by decide) (isLine_quoted.2 (by cases direction <;> decide))

theorem isLine_counterVariable (i : Nat) : IsLine (counterVariable i) :=
  isLine_append.2 ⟨by decide, isLine_toString i⟩

theorem isLine_groupEntry (g : TileGroup) : IsLine (groupEntry g) := by
  have members : IsLine (", ".intercalate (g.members.map counterVariable)) := by
    refine isLine_intercalate (by decide) fun item mem => ?_
    obtain ⟨i, -, rfl⟩ := List.mem_map.1 mem
    exact isLine_counterVariable i
  refine isLine_object fun f mem => ?_
  simp only [List.mem_cons, List.not_mem_nil, or_false] at mem
  rcases mem with rfl | rfl | rfl
  · exact isLine_field (by decide) (isLine_toString _)
  · exact isLine_field (by decide) (isLine_toString _)
  · refine isLine_field (by decide) (isLine_append.2 ⟨isLine_append.2 ⟨by decide, members⟩, ?_⟩)
    decide

theorem isLine_readLine (d : Descriptor) (i : Nat) : IsLine (readLine d i) := by
  simp +decide only [readLine, isLine_append, isLine_counterVariable, isLine_formatAddress]

theorem isLine_probeComment {r : Instrumentation} (program : IsLine r.baseName) :
    IsLine (probeComment r) := by
  unfold probeComment
  simp +decide only [isLine_append, isLine_toString, program]

theorem isLine_probeLine {r : Instrumentation} (program : IsLine r.baseName) :
    IsLine (probeLine r) := by
  have numbers : IsLine (",".intercalate (r.lines.map fun line => toString line.toNat)) := by
    refine isLine_intercalate (by decide) fun item mem => ?_
    obtain ⟨line, -, rfl⟩ := List.mem_map.1 mem
    exact isLine_toString _
  unfold probeLine
  simp +decide only [isLine_append, isLine_toString, program, numbers]

theorem isLine_probeLines {b : Block} (program : IsLine b.record.baseName) :
    ∀ line ∈ probeLines b, IsLine line := by
  have reads : ∀ line ∈ b.counters.zipIdx.map (fun c => readLine c.1 c.2), IsLine line := by
    intro line mem
    obtain ⟨c, -, rfl⟩ := List.mem_map.1 mem
    exact isLine_readLine _ _
  have groups : ∀ line ∈ itemLines (b.groups.map groupEntry), IsLine line := by
    refine fun line => isLine_itemLine fun item mem => ?_
    obtain ⟨g, -, rfl⟩ := List.mem_map.1 mem
    exact isLine_groupEntry g
  simp +decide only [probeLines, List.forall_mem_append, List.forall_mem_cons,
    isLine_probeComment program, isLine_probeLine program, isLine_append, isLine_quoted, program,
    true_and, and_true]
  exact ⟨reads, groups⟩

end CounterTrace.Script
