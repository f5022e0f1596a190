import CounterTrace.Proofs.LineEnds
import Mathlib.Data.List.Forall2

/-!
# Writing a manifest and reading it back

An item of a manifest is written as a row of three fields in quotes.  Commas, white space and
carriage returns in a field come back as they are, and so do the line numbers; only a quote or a
line feed could not be written in this way.
-/

namespace CounterTrace

namespace Manifest

open Text

/-- What a row says. -/
structure Item where
  directory : String
  fileName : String
  numbers : List UInt32

namespace Item

/-- The line numbers in decimal, with commas between them. -/
def list (item : Item) : List Char :=
  [','].intercalate (item.numbers.map fun n => Nat.toDigits 10 n.toNat)

/-- The row of an item, with its three fields in quotes. -/
def line (item : Item) : String :=
  String.ofList (quotedRow [item.directory.toList, item.fileName.toList, item.list])

/-- An item can be written as a row if its texts have no quotes and no line feeds, and if its file
is that of a control program. -/
structure IsWritable (item : Item) : Prop where
  directory_noQuote : '"' ∉ item.directory.toList
  directory_oneLine : '\n' ∉ item.directory.toList
  fileName_noQuote : '"' ∉ item.fileName.toList
  fileName_oneLine : '\n' ∉ item.fileName.toList
  accepted : ∃ record, Record.ofFile item.directory item.fileName [] = .ok record

/-- A record has what the item says, under the number in the file name. -/
structure IsRecord (item : Item) (record : Record) : Prop where
  directory : record.directory = item.directory
  fileName : record.fileName = item.fileName
  number : Program.number item.fileName = .ok (UInt32.ofNat record.id.val)
  points : record.points = item.numbers.map fun n => ⟨n, -1⟩

end Item

/-- A list of line numbers has digits and commas only. -/
theorem mem_list {item : Item} {c : Char} (h : c ∈ item.list) : c = ',' ∨ c.isDigit = true := by
  refine (mem_intercalate h).imp List.mem_singleton.1 ?_
  rintro ⟨digits, mem, isIn⟩
  obtain ⟨n, -, rfl⟩ := List.mem_map.1 mem
  exact LineList.isDigit_of_mem_number isIn

/-- A list of line numbers that was written is read as these. -/
theorem ofText_list (item : Item) : LineList.ofText item.list = ⟨item.numbers, []⟩ :=
  LineList.ofText_numbers item.numbers

variable {item : Item}

/-- A row that was written has the fields it was written from. -/
theorem fields_line (h : item.IsWritable) :
    fields item.line.toList = [item.directory.toList, item.fileName.toList, item.list] := by
  have list_noQuote : '"' ∉ item.list := fun mem => by
    rcases mem_list mem with same | digit
    · exact absurd same (by decide)
    · exact absurd digit (by decide)
  rw [Item.line, String.toList_ofList]
  refine fields_quotedRow (by simp) ?_
  simp [h.directory_noQuote, h.fileName_noQuote, list_noQuote]

/-- A row stays on one line. -/
theorem line_oneLine (h : item.IsWritable) : '\n' ∉ item.line.toList := by
  have list_oneLine : '\n' ∉ item.list := fun mem => by
    rcases mem_list mem with same | digit
    · exact absurd same (by decide)
    · exact absurd digit (by decide)
  simp [Item.line, quotedRow, List.intercalate_cons_cons, h.directory_oneLine, h.fileName_oneLine,
    list_oneLine]

/-- A row is not blank, since there are quotes in it. -/
theorem line_notBlank (item : Item) : item.line.toList.all isBlank = false := by
  have quote : isBlank '"' = false := by decide
  simp [Item.line, quotedRow, List.intercalate_cons_cons, quote]

/-- **A row that was written is read as the record of its item.** -/
theorem ofLine_line (h : item.IsWritable) :
    ∃ record, item.IsRecord record ∧ Row.ofLine item.line.toList = .accepted record [] := by
  obtain ⟨record, accepted⟩ := h.accepted
  obtain ⟨number, directory, fileName, -⟩ := Record.ofFile_eq_ok_iff.1 accepted
  let points : List ProbePoint := item.numbers.map fun n => ⟨n, noIndex⟩
  have made : Record.ofFile item.directory item.fileName points
      = .ok { record with points := points } :=
    Record.ofFile_eq_ok_iff.2 ⟨number, directory, fileName, rfl⟩
  refine ⟨{ record with points := points }, ⟨directory, fileName, number, rfl⟩, ?_⟩
  rw [Row.ofLine, fields_line h]
  simp only [String.ofList_toList, ofText_list, Row.ofFields]
  rw [made]

/-- The rows that were written for some items. -/
theorem bodyRows_items {items : List Item} (h : ∀ item ∈ items, item.IsWritable) :
    ∃ records, List.Forall₂ Item.IsRecord items records ∧
      bodyRows (items.map Item.line) = records.map fun record => .accepted record [] := by
  induction items with
  | nil => exact ⟨[], .nil, rfl⟩
  | cons item items ih =>
    obtain ⟨first, rest⟩ := List.forall_mem_cons.1 h
    obtain ⟨record, isRecord, read⟩ := ofLine_line first
    obtain ⟨records, areRecords, readRest⟩ := ih rest
    refine ⟨record :: records, .cons isRecord areRecords, ?_⟩
    rw [bodyRows] at readRest ⊢
    rw [List.map_cons, List.filter_cons_of_pos (by simp [line_notBlank]), List.map_cons, read,
      readRest, List.map_cons]

/-- Rows that all give records, and reject nothing. -/
theorem ofRows_accepted (records : List Record) :
    ofRows (records.map fun record => .accepted record []) =
      ⟨sortBy (fun a b => decide (a.id.val ≤ b.id.val)) records, ⟨records.length, 0, 0, 0⟩⟩ := by
  have rejected : (records.map fun record => Row.accepted record []).flatMap Row.rejected = [] := by
    simp [Row.rejected]
  rw [ofRows, rejected]
  simp [List.filterMap_map, Function.comp_def, Row.record?, List.countP_map, Row.isMalformed,
    Row.isRefused]

/-- **Reading undoes writing**: the records of a manifest that was written are those of its items,
in ascending number of their programs, and there is nothing to complain about. -/
theorem ofText_items {header : String} {items : List Item} (oneLine : '\n' ∉ header.toList)
    (writable : ∀ item ∈ items, item.IsWritable) :
    ∃ records, List.Forall₂ Item.IsRecord items records ∧
      IsStableSort (fun r => r.id.val) records
        (ofText (unlines (header :: items.map Item.line))).records ∧
      (ofText (unlines (header :: items.map Item.line))).stats = ⟨items.length, 0, 0, 0⟩ ∧
      warnings (unlines (header :: items.map Item.line)) = [] := by
  obtain ⟨records, areRecords, read⟩ := bodyRows_items writable
  have oneLines : ∀ line ∈ header :: items.map Item.line, '\n' ∉ line.toList := by
    rw [List.forall_mem_cons, List.forall_mem_map]
    exact ⟨oneLine, fun item mem => line_oneLine (writable item mem)⟩
  have rows_eq := (map_fst_rows_unlines oneLines).trans read
  refine ⟨records, areRecords, ?_, ?_, ?_⟩
  · rw [ofText, rows_eq, ofRows_accepted]
    exact isStableSort_sortBy _ _
  · rw [ofText, rows_eq, ofRows_accepted, areRecords.length_eq]
  · rw [warnings_eq_nil_iff, rows_eq]
    simp [Row.record?, Row.rejected]

/-- Two items in descending order, with commas, white space and a carriage return in them. -/
def descending : List Item :=
  [⟨" /a,b\r", "x, y/aie_runtime_control3.asm", [7, 0, 4294967295]⟩,
    ⟨"", "\taie_runtime_control0.asm\r", []⟩]

theorem ofText_items_descending :
    '\n' ∉ "header\r".toList ∧ (∀ item ∈ descending, item.IsWritable) ∧
      ∃ records, List.Forall₂ Item.IsRecord descending records ∧
        IsStableSort (fun r => r.id.val) records
          (ofText (unlines ("header\r" :: descending.map Item.line))).records ∧
        (ofText (unlines ("header\r" :: descending.map Item.line))).stats = ⟨2, 0, 0, 0⟩ ∧
        warnings (unlines ("header\r" :: descending.map Item.line)) = [] := by
  have writable : ∀ item ∈ descending, item.IsWritable := by
    simp only [descending, List.forall_mem_cons, List.not_mem_nil, false_imp_iff, implies_true,
      and_true]
    exact ⟨⟨by decide, by decide, by decide, by decide, ⟨_, rfl⟩⟩,
      ⟨by decide, by decide, by decide, by decide, ⟨_, rfl⟩⟩⟩
  exact ⟨by decide, writable, ofText_items (by decide) writable⟩

end Manifest

end CounterTrace
