import CounterTrace.Proofs.IdleRows

/-!
# The order of the rows of a manifest

The lines of a manifest below its header may come in any order.  The statistics are sums over the
lines, and the records come in ascending number of their programs; only the records of one program
are in the order of their lines.  Where no two lines are for one program, nothing is left of the
order of the lines, and the script is the same.
-/

namespace CounterTrace.Manifest

open Text (unlines)

/-- The manifests have the same statistics, the same programs in the same order, and for each
program the same records, perhaps in another order. -/
structure AgreesUpToTies (m m' : Manifest) : Prop where
  stats : m.stats = m'.stats
  numbers : m.records.map (fun r => r.id.val) = m'.records.map fun r => r.id.val
  tied : ∀ n, (m.records.filter fun r => decide (r.id.val = n)).Perm
    (m'.records.filter fun r => decide (r.id.val = n))

section Rows

variable {rows rows' : List Row}

/-- Each count is a sum over the rows. -/
theorem stats_ofRows_of_perm (same : rows.Perm rows') :
    (ofRows rows).stats = (ofRows rows').stats := by
  have rejected : (rows.flatMap Row.rejected).Perm (rows'.flatMap Row.rejected) :=
    same.flatMap_right Row.rejected
  rw [ofRows, ofRows, Stats.mk.injEq]
  exact ⟨same.length_eq, same.countP_eq _, same.countP_eq _, rejected.length_eq⟩

/-- The records of some rows are the records that the rows give, sorted. -/
theorem isStableSort_ofRows (rows : List Row) :
    IsStableSort (fun r => r.id.val) (rows.filterMap Row.record?) (ofRows rows).records :=
  isStableSort_sortBy (fun r : Record => r.id.val) _

/-- **Rows in another order** make a difference only to the order of the records of a program. -/
theorem agreesUpToTies_ofRows (same : rows.Perm rows') :
    AgreesUpToTies (ofRows rows) (ofRows rows') := by
  have given : (rows.filterMap Row.record?).Perm (rows'.filterMap Row.record?) :=
    same.filterMap Row.record?
  have sorted := isStableSort_ofRows rows
  have sorted' := isStableSort_ofRows rows'
  constructor
  case stats => exact stats_ofRows_of_perm same
  case numbers => exact sorted.map_rank_eq sorted' given
  case tied =>
    intro n
    rw [sorted.tied, sorted'.tied]
    exact given.filter _

/-- Where no two rows are for one program, there is no difference. -/
theorem records_ofRows_of_perm (same : rows.Perm rows')
    (distinct : (rows.filterMap Row.record?).Pairwise fun r r' => r.id.val ≠ r'.id.val) :
    (ofRows rows).records = (ofRows rows').records :=
  (isStableSort_ofRows rows).eq_of_distinct (isStableSort_ofRows rows')
    (same.filterMap Row.record?) distinct

end Rows

variable {header : String} {ls ls' : List String}

theorem bodyRows_of_perm (same : ls.Perm ls') : (bodyRows ls).Perm (bodyRows ls') :=
  (same.filter _).map _

/-- **The lines of a manifest in another order** make a difference only to the order of the records
of a program.  Where no two lines are for one program they make none, and so the same script
follows, whatever the counters and the words of the script are. -/
theorem ofText_of_perm (oneLine : ∀ l ∈ header :: ls, '\n' ∉ l.toList) (same : ls.Perm ls') :
    AgreesUpToTies (ofText (unlines (header :: ls))) (ofText (unlines (header :: ls'))) ∧
      ((bodyRecords ls).Pairwise (fun r r' => r.id.val ≠ r'.id.val) →
        (ofText (unlines (header :: ls))).records = (ofText (unlines (header :: ls'))).records ∧
        ∀ g : Generator,
          (g.script ((ofText (unlines (header :: ls))).records.map Record.instrumentation)).text
            = (g.script
              ((ofText (unlines (header :: ls'))).records.map Record.instrumentation)).text) := by
  have oneLine' : ∀ l ∈ header :: ls', '\n' ∉ l.toList := by
    intro l mem
    exact oneLine l ((same.cons header).mem_iff.2 mem)
  rw [ofText_unlines oneLine, ofText_unlines oneLine']
  have rows := bodyRows_of_perm same
  refine ⟨agreesUpToTies_ofRows rows, ?_⟩
  intro distinct
  have records := records_ofRows_of_perm rows distinct
  refine ⟨records, ?_⟩
  intro g
  rw [records]

/-- Lines in descending order of their programs, with a blank one, one that is no row, and one whose
file is not that of a control program. -/
def descendingLines : List String :=
  ["/d,aie_runtime_control3.asm,\"7,x\"", "\u3000\r", "/d,aie_runtime_control1.asm,\"5,6\"",
    "/d,aie_runtime_control1.asm", "/d,other.asm,y"]

theorem ofText_of_perm_descendingLines :
    (∀ l ∈ "directory,file,lines" :: descendingLines, '\n' ∉ l.toList) ∧
      descendingLines.Perm descendingLines.reverse ∧
      AgreesUpToTies (ofText (unlines ("directory,file,lines" :: descendingLines)))
        (ofText (unlines ("directory,file,lines" :: descendingLines.reverse))) ∧
      (ofText (unlines ("directory,file,lines" :: descendingLines))).records
        = (ofText (unlines ("directory,file,lines" :: descendingLines.reverse))).records := by
  have oneLine : ∀ l ∈ "directory,file,lines" :: descendingLines, '\n' ∉ l.toList := by decide
  have same : descendingLines.Perm descendingLines.reverse := (List.reverse_perm _).symm
  obtain ⟨agrees, equal⟩ := ofText_of_perm oneLine same
  exact ⟨oneLine, same, agrees, (equal (by decide)).1⟩

end CounterTrace.Manifest
