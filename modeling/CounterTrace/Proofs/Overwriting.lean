import CounterTrace.FileTree.Edit
import CounterTrace.Proofs.Placing

/-!
# Writing over a file

A file that can be read is a file in a directory of directories: whoever follows its path has been
in each of these.  So writing it again makes no directory, and changes what there is at that one
location.  What other paths need for a file to be put in its place, they still find.
-/

namespace CounterTrace.FileTree

variable {t : FileTree} {place : Location}

/-- All locations above a location are those of directories. -/
def IsWithin (t : FileTree) (place : Location) : Prop :=
  ∀ above, above <:+ place → above ≠ place → t.node? above = some .directory

theorem isWithin_root (t : FileTree) : t.IsWithin [] :=
  fun _ isAbove other => absurd (List.suffix_nil.1 isAbove) other

theorem IsWithin.tail (h : t.IsWithin place) : t.IsWithin place.tail := by
  intro above isAbove other
  refine h above (isAbove.trans (List.tail_suffix place)) ?_
  rintro rfl
  exact other (isAbove.eq_of_length_le (List.tail_suffix above).length_le)

theorem IsWithin.cons (h : t.IsWithin place) (here : t.node? place = some .directory)
    (name : String) : t.IsWithin (name :: place) := by
  intro above isAbove other
  have isAbove' := (List.suffix_cons_iff.1 isAbove).resolve_left other
  by_cases same : above = place
  · exact same ▸ here
  · exact h above isAbove' same

/-- Following a component from a directory stays within directories. -/
theorem IsWithin.enter (h : t.IsWithin place) (here : t.node? place = some .directory)
    (c : String) : t.IsWithin (enter place c) := by
  unfold FileTree.enter
  split
  · exact h
  · split
    · exact h.tail
    · exact h.cons here c

/-- So does following a path. -/
theorem IsWithin.walk {components : List String} {next : Location} (h : t.IsWithin place)
    (follow : t.walk place components = .ok next) : t.IsWithin next := by
  induction components generalizing place with
  | nil =>
    rw [FileTree.walk, Except.ok.injEq] at follow
    exact follow ▸ h
  | cons c cs ih =>
    obtain ⟨here, -, further⟩ := walk_cons_eq_ok_iff.1 follow
    exact ih (h.enter here c) further

theorem read_eq_ok_iff {path : String} {content : ByteArray} :
    t.read path = .ok content ↔
      ∃ place, t.locate path = .ok place ∧ t.node? place = some (.file content) := by
  rw [read]
  cases t.locate path with
  | error fault => simp
  | ok place =>
    simp only [Except.ok.injEq, exists_eq_left']
    cases t.node? place with
    | none => simp
    | some node => cases node <;> simp

theorem locate_eq_ok_iff {path : String} :
    t.locate path = .ok place ↔ Path.hasNul path = false ∧ Path.isTooLong path = false ∧
      t.walk [] (Path.components path) = .ok place := by
  rw [locate, pathFault?]
  cases Path.hasNul path with
  | true => simp
  | false => cases Path.isTooLong path <;> simp

/-- A component that leads from a directory to a file is a name. -/
theorem isName_of_file {name : String} {content : ByteArray} (within : t.IsWithin place)
    (here : t.node? place = some .directory)
    (isFile : t.node? (enter place name) = some (.file content)) : Path.isName name = true := by
  have moves : Path.staysPut name = false := by
    rw [Bool.eq_false_iff]
    intro stays
    simp [enter, stays, here] at isFile
  -- Going up leads to the root or to a directory that was passed on the way.
  have goesDown : name ≠ ".." := by
    rintro rfl
    rw [enter, if_neg (by decide), if_pos rfl] at isFile
    cases place with
    | nil => simp [node?] at isFile
    | cons first above =>
      have isDirectory := within above (List.suffix_cons first above) (by simp)
      simp [isDirectory] at isFile
  simp [Path.isName, moves, goesDown]

/-- **A file that can be read could be moved there.** -/
theorem exists_target_of_read {path : String} {content : ByteArray}
    (h : t.read path = .ok content) : ∃ place, t.target path = .ok place := by
  obtain ⟨place, located, isFile⟩ := read_eq_ok_iff.1 h
  obtain ⟨noNul, fits, follow⟩ := locate_eq_ok_iff.1 located
  obtain ⟨above, name, split⟩ := Path.exists_components_eq path
  rw [split] at follow
  obtain ⟨parent, followAbove, followName⟩ := walk_append_eq_ok_iff.1 follow
  obtain ⟨here, short, entered⟩ := walk_cons_eq_ok_iff.1 followName
  rw [walk, Except.ok.injEq] at entered
  subst entered
  have named := isName_of_file ((isWithin_root t).walk followAbove) here isFile
  refine ⟨name :: parent, (target_eq_ok_iff split).2
    ⟨(Path.canBeFile_iff split).2 ⟨noNul, fits, named, short⟩, parent, ?_, rfl, ?_⟩⟩
  · exact directory_eq_ok_iff.2 ⟨followAbove, here⟩
  · rw [← enter_of_isName named, isFile]
    simp

/-- Where components lead to a directory already, none is made. -/
theorem makeFrom_of_walk {start : Location} {components : List String}
    (follow : t.walk start components = .ok place) (here : t.node? place = some .directory) :
    t.makeFrom start components = t := by
  induction components generalizing start with
  | nil => rfl
  | cons c cs ih =>
    obtain ⟨-, short, further⟩ := walk_cons_eq_ok_iff.1 follow
    have next : t.node? (enter start c) = some .directory := by
      cases cs with
      | nil =>
        rw [walk, Except.ok.injEq] at further
        exact further ▸ here
      | cons d ds => exact (walk_cons_eq_ok_iff.1 further).1
    -- There is a directory already where the first component leads, so none is made for it.
    rw [makeFrom]
    simp only [short, next, Bool.false_eq_true, if_false]
    exact ih further

/-- **Writing a file where there is a directory for it** changes one location. -/
theorem putFile_of_target {path : String} (h : t.target path = .ok place) (content : ByteArray) :
    t.putFile path content = t.set place (.file content) := by
  obtain ⟨above, name, split⟩ := Path.exists_components_eq path
  obtain ⟨-, parent, isDirectory, -⟩ := (target_eq_ok_iff split).1 h
  obtain ⟨follow, here⟩ := directory_eq_ok_iff.1 isDirectory
  rw [putFile, split, List.dropLast_concat, makeFrom_of_walk follow here]
  simp only [h]

variable (content : ByteArray) (nonroot : place ≠ [])
  (noDirectory : t.node? place ≠ some .directory)

include nonroot noDirectory

theorem target_set {path : String} {found : Location} (h : t.target path = .ok found) :
    (t.set place (.file content)).target path = .ok found := by
  obtain ⟨above, name, split⟩ := Path.exists_components_eq path
  obtain ⟨possible, parent, isDirectory, rfl, free⟩ := (target_eq_ok_iff split).1 h
  have keeps := keepsDirectories_set content nonroot noDirectory
  refine (target_eq_ok_iff split).2 ⟨possible, parent, keeps.directory isDirectory, rfl, ?_⟩
  rw [set_eq_of_ne_nil t _ nonroot]
  split
  · simp
  · exact free

/-- **Files are put in their places as before** when another file changes, or the same one. -/
theorem exists_install_set {path : String} {new : ByteArray}
    (h : ∃ t', t.install path new = .ok t') :
    ∃ t', (t.set place (.file content)).install path new = .ok t' := by
  obtain ⟨t', installed⟩ := h
  obtain ⟨⟨staging, staged⟩, found, target, -⟩ := install_eq_ok_iff.1 installed
  obtain ⟨noNul, fits, isDirectory⟩ := stagingDirectory_eq_ok_iff.1 staged
  have keeps := keepsDirectories_set content nonroot noDirectory
  have stagedStill := stagingDirectory_eq_ok_iff.2 ⟨noNul, fits, keeps.directory isDirectory⟩
  exact ⟨_, install_eq_ok_iff.2
    ⟨⟨staging, stagedStill⟩, found, target_set content nonroot noDirectory target, rfl⟩⟩

end CounterTrace.FileTree
