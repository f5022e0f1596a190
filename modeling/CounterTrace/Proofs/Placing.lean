import CounterTrace.Proofs.Install

/-!
# Where a file can be put

A finished file is staged in the directory above its path and then moved onto the path.  Whether
either step can be taken is told here from the path and from what the tree has on the way.

Whoever looks for a directory is stopped by something that is missing, by a file, or by a component
that is too long.  Once the directory is found, a file can be moved onto a path exactly if the path
can be that of a file and does not lead to a directory.
-/

namespace CounterTrace

namespace Path

theorem isNameTooLong_of_staysPut {c : String} (h : staysPut c = true) :
    isNameTooLong c = false := by
  simp only [staysPut, Bool.or_eq_true, decide_eq_true_eq] at h
  rcases h with rfl | rfl <;> decide

/-- The directory that a path is in, where the last component of the path is a name. -/
theorem parent_eq {path name : String} {above : List String}
    (split : components path = above ++ [name]) (named : isName name = true) :
    parent path = dropStaying above := by
  simp only [isName, Bool.and_eq_true, Bool.not_eq_true'] at named
  simp [parent, dropStaying, split, named.1]

/-- Only components that stay put are dropped at the end. -/
theorem exists_staying (components : List String) :
    ∃ staying, components = dropStaying components ++ staying ∧
      ∀ c ∈ staying, staysPut c = true := by
  refine ⟨(components.reverse.takeWhile staysPut).reverse, ?_, fun c mem => ?_⟩
  · rw [dropStaying, ← List.reverse_append, List.takeWhile_append_dropWhile, List.reverse_reverse]
  · exact List.all_eq_true.1 List.all_takeWhile c (List.mem_reverse.1 mem)

end Path

namespace FileTree

variable {t : FileTree} {path : String} {place : Location}

/-- Whoever follows some components from a location comes to where the components that are left
and the node there, if there is one, are as told. -/
def Meets (t : FileTree) (start : Location) (components : List String)
    (here : List String → Option Node → Prop) : Prop :=
  ∃ before after place, components = before ++ after ∧ t.walk start before = .ok place ∧
    here after (t.node? place)

/-- Some components lead to a directory. -/
def LeadsToDirectory (t : FileTree) (components : List String) : Prop :=
  ∃ place, t.walk [] components = .ok place ∧ t.node? place = some .directory

/-- What stops whoever looks for a directory, where some components are left to follow. -/
inductive Stops : Fault → List String → Option Node → Prop
  /-- There is nothing. -/
  | missing (after : List String) : Stops .notFound after none
  /-- There is a file. -/
  | isFile (after : List String) (content : ByteArray) :
    Stops .notDirectory after (some (.file content))
  /-- The next component is too long. -/
  | isLong {c : String} (after : List String) (long : Path.isNameTooLong c = true) :
    Stops .tooLong (c :: after) (some .directory)

@[simp] theorem stops_none_iff {fault : Fault} {after : List String} :
    Stops fault after none ↔ fault = .notFound :=
  ⟨fun | .missing _ => rfl, fun h => h ▸ .missing after⟩

@[simp] theorem stops_file_iff {fault : Fault} {after : List String} {content : ByteArray} :
    Stops fault after (some (.file content)) ↔ fault = .notDirectory :=
  ⟨fun | .isFile _ _ => rfl, fun h => h ▸ .isFile after content⟩

@[simp] theorem not_stops_directory_nil {fault : Fault} : ¬Stops fault [] (some .directory) :=
  nofun

@[simp] theorem stops_directory_cons_iff {fault : Fault} {c : String} {after : List String} :
    Stops fault (c :: after) (some .directory) ↔
      fault = .tooLong ∧ Path.isNameTooLong c = true :=
  ⟨fun | .isLong _ long => ⟨rfl, long⟩, fun ⟨isFault, long⟩ => isFault ▸ .isLong after long⟩

theorem meets_nil_iff {start : Location} {here : List String → Option Node → Prop} :
    t.Meets start [] here ↔ here [] (t.node? start) := by
  constructor
  · rintro ⟨before, after, place, split, follow, isHere⟩
    obtain ⟨rfl, rfl⟩ := List.append_eq_nil_iff.1 split.symm
    rw [walk, Except.ok.injEq] at follow
    exact follow ▸ isHere
  · intro isHere
    exact ⟨[], [], start, rfl, rfl, isHere⟩

/-- What is met is at the start, or further on if the first component can be followed. -/
theorem meets_cons_iff {start : Location} {c : String} {cs : List String}
    {here : List String → Option Node → Prop} :
    t.Meets start (c :: cs) here ↔ here (c :: cs) (t.node? start) ∨
      t.node? start = some .directory ∧ Path.isNameTooLong c = false ∧
        t.Meets (enter start c) cs here := by
  constructor
  · rintro ⟨before, after, place, split, follow, isHere⟩
    rcases List.cons_eq_append_iff.1 split with ⟨rfl, rfl⟩ | ⟨before, rfl, rfl⟩
    · rw [walk, Except.ok.injEq] at follow
      exact .inl (follow ▸ isHere)
    · obtain ⟨dir, short, follow⟩ := walk_cons_eq_ok_iff.1 follow
      exact .inr ⟨dir, short, before, after, place, rfl, follow, isHere⟩
  · rintro (isHere | ⟨dir, short, before, after, place, rfl, follow, isHere⟩)
    · exact ⟨[], c :: cs, start, rfl, rfl, isHere⟩
    · exact ⟨c :: before, after, place, rfl, walk_cons_eq_ok_iff.2 ⟨dir, short, follow⟩, isHere⟩

/-- The directory that components lead to from a location. -/
def directoryFrom (t : FileTree) (start : Location) (components : List String) :
    Except Fault Location :=
  match t.walk start components with
  | .error fault => .error fault
  | .ok place =>
    match t.node? place with
    | none => .error .notFound
    | some (.file _) => .error .notDirectory
    | some .directory => .ok place

theorem directoryFrom_cons (start : Location) (c : String) (cs : List String) :
    t.directoryFrom start (c :: cs) =
      match t.node? start with
      | none => .error .notFound
      | some (.file _) => .error .notDirectory
      | some .directory =>
        if Path.isNameTooLong c then .error .tooLong else t.directoryFrom (enter start c) cs := by
  rw [directoryFrom, walk]
  cases t.node? start with
  | none => rfl
  | some node =>
    cases node with
    | file content => rfl
    | directory => cases Path.isNameTooLong c <;> rfl

theorem directoryFrom_eq_error_iff {start : Location} {components : List String} {fault : Fault} :
    t.directoryFrom start components = .error fault ↔ t.Meets start components (Stops fault) := by
  induction components generalizing start with
  | nil =>
    rw [meets_nil_iff]
    simp only [directoryFrom, walk]
    cases t.node? start with
    | none => simp [@eq_comm _ _ fault]
    | some node => cases node <;> simp [@eq_comm _ _ fault]
  | cons c cs ih =>
    rw [meets_cons_iff, directoryFrom_cons]
    cases t.node? start with
    | none => simp [@eq_comm _ _ fault]
    | some node =>
      cases node with
      | file content => simp [@eq_comm _ _ fault]
      | directory => cases long : Path.isNameTooLong c <;> simp [long, ih, @eq_comm _ _ fault]

/-- **Why a directory is not found**: something on the way is missing or is a file, or a component
is too long where it is looked up. -/
theorem directory_eq_error_iff {components : List String} {fault : Fault} :
    t.directory components = .error fault ↔ t.Meets [] components (Stops fault) :=
  directoryFrom_eq_error_iff

theorem walk_staying {components : List String} (h : ∀ c ∈ components, Path.staysPut c = true)
    (here : t.node? place = some .directory) : t.walk place components = .ok place := by
  induction components with
  | nil => rfl
  | cons c cs ih =>
    obtain ⟨stays, rest⟩ := List.forall_mem_cons.1 h
    refine walk_cons_eq_ok_iff.2 ⟨here, Path.isNameTooLong_of_staysPut stays, ?_⟩
    rw [enter, if_pos stays]
    exact ih rest

theorem eq_of_walk_staying {components : List String} {next : Location}
    (h : ∀ c ∈ components, Path.staysPut c = true) (follow : t.walk place components = .ok next) :
    next = place := by
  induction components with
  | nil => exact (Except.ok.inj follow).symm
  | cons c cs ih =>
    obtain ⟨stays, rest⟩ := List.forall_mem_cons.1 h
    have further := (walk_cons_eq_ok_iff.1 follow).2.2
    rw [enter, if_pos stays] at further
    exact ih rest further

/-- Components that stay put lead to the same directory. -/
theorem directory_dropStaying {components : List String} :
    t.directory (Path.dropStaying components) = .ok place ↔ t.directory components = .ok place := by
  obtain ⟨staying, split, stay⟩ := Path.exists_staying components
  generalize Path.dropStaying components = before at split
  subst split
  rw [directory_eq_ok_iff, directory_eq_ok_iff, walk_append_eq_ok_iff]
  constructor
  · rintro ⟨follow, here⟩
    exact ⟨⟨place, follow, walk_staying stay here⟩, here⟩
  · rintro ⟨⟨between, follow, further⟩, here⟩
    obtain rfl := eq_of_walk_staying stay further
    exact ⟨follow, here⟩

/-- A file can be staged in the directory above a path. -/
structure CanStage (t : FileTree) (path : String) : Prop where
  noNul : (Path.parent path).any Path.hasNul = false
  fits : (Path.ofComponents (Path.parent path)).utf8ByteSize + stagedBytes ≤ Path.maxBytes
  isDirectory : t.LeadsToDirectory (Path.parent path)

/-- Why a file cannot be staged in the directory above a path. -/
inductive NotStaged (t : FileTree) (path : String) : Fault → Prop
  /-- The path of the directory holds a NUL character. -/
  | nul (holds : (Path.parent path).any Path.hasNul = true) : NotStaged t path .nul
  /-- The path of the staged file is too long. -/
  | long (noNul : (Path.parent path).any Path.hasNul = false)
    (exceeds : Path.maxBytes <
      (Path.ofComponents (Path.parent path)).utf8ByteSize + stagedBytes) :
    NotStaged t path .tooLong
  /-- There is no directory. -/
  | stopped {fault : Fault} (noNul : (Path.parent path).any Path.hasNul = false)
    (fits : (Path.ofComponents (Path.parent path)).utf8ByteSize + stagedBytes ≤ Path.maxBytes)
    (met : t.Meets [] (Path.parent path) (Stops fault)) : NotStaged t path fault

theorem stagingDirectory_eq_ok_iff :
    t.stagingDirectory path = .ok place ↔ (Path.parent path).any Path.hasNul = false ∧
      (Path.ofComponents (Path.parent path)).utf8ByteSize + stagedBytes ≤ Path.maxBytes ∧
      t.directory (Path.parent path) = .ok place := by
  simp only [stagingDirectory]
  cases (Path.parent path).any Path.hasNul with
  | true => simp
  | false =>
    by_cases exceeds : Path.maxBytes <
        (Path.ofComponents (Path.parent path)).utf8ByteSize + stagedBytes
    · simp [exceeds, Nat.not_le.2 exceeds]
    · simp [exceeds, Nat.not_lt.1 exceeds]

theorem exists_stagingDirectory_iff :
    (∃ place, t.stagingDirectory path = .ok place) ↔ t.CanStage path := by
  constructor
  · rintro ⟨place, staging⟩
    obtain ⟨noNul, fits, isDirectory⟩ := stagingDirectory_eq_ok_iff.1 staging
    exact ⟨noNul, fits, place, directory_eq_ok_iff.1 isDirectory⟩
  · rintro ⟨noNul, fits, place, isDirectory⟩
    exact ⟨place, stagingDirectory_eq_ok_iff.2
      ⟨noNul, fits, directory_eq_ok_iff.2 isDirectory⟩⟩

theorem stagingDirectory_eq_error_iff {fault : Fault} :
    t.stagingDirectory path = .error fault ↔ t.NotStaged path fault := by
  simp only [stagingDirectory]
  constructor
  · intro h
    split at h
    · rename_i holds
      rw [Except.error.injEq] at h
      exact h ▸ .nul holds
    · rename_i noNul
      rw [Bool.not_eq_true] at noNul
      split at h
      · rename_i exceeds
        rw [Except.error.injEq] at h
        exact h ▸ .long noNul exceeds
      · rename_i fits
        exact .stopped noNul (Nat.not_lt.1 fits) (directory_eq_error_iff.1 h)
  · intro h
    cases h with
    | nul holds => rw [if_pos holds]
    | long noNul exceeds => rw [if_neg (by simp [noNul]), if_pos exceeds]
    | stopped noNul fits met =>
      rw [if_neg (by simp [noNul]), if_neg (Nat.not_lt.2 fits)]
      exact directory_eq_error_iff.2 met

/-- Why a staged file cannot be moved onto its path. -/
inductive NotMoved (t : FileTree) (path : String) : Fault → Prop
  /-- The path leads to a directory. -/
  | isDirectory (possible : Path.canBeFile path = true)
    (leads : t.LeadsToDirectory (Path.components path)) : NotMoved t path .isDirectory
  /-- The path cannot be that of a file. -/
  | impossible {fault : Fault} (impossible : Path.canBeFile path = false)
    (refused : t.target path = .error fault) : NotMoved t path fault

/-- Where the last component of a path leads from the directory above. -/
theorem leadsToDirectory_iff {name : String} {above : List String} {parent : Location}
    (split : Path.components path = above ++ [name]) (possible : Path.canBeFile path = true)
    (isDirectory : t.directory above = .ok parent) :
    t.LeadsToDirectory (Path.components path) ↔ t.node? (name :: parent) = some .directory := by
  obtain ⟨-, -, named, short⟩ := (Path.canBeFile_iff split).1 possible
  obtain ⟨follow, here⟩ := directory_eq_ok_iff.1 isDirectory
  have last {place : Location} :
      t.walk [] (Path.components path) = .ok place ↔ name :: parent = place := by
    simp [split, walk_append_eq_ok_iff, follow, here, short, walk, enter_of_isName named]
  simp [LeadsToDirectory, last]

/-- The directory above a path in which a file can be staged. -/
theorem exists_directory_above {name : String} {above : List String} (h : t.CanStage path)
    (split : Path.components path = above ++ [name]) (possible : Path.canBeFile path = true) :
    ∃ parent, t.directory above = .ok parent := by
  obtain ⟨-, -, named, -⟩ := (Path.canBeFile_iff split).1 possible
  obtain ⟨parent, isDirectory⟩ := h.isDirectory
  rw [Path.parent_eq split named] at isDirectory
  exact ⟨parent, directory_dropStaying.1 (directory_eq_ok_iff.2 isDirectory)⟩

theorem target_eq_error_iff {fault : Fault} (h : t.CanStage path) :
    t.target path = .error fault ↔ t.NotMoved path fault := by
  obtain ⟨above, name, split⟩ := Path.exists_components_eq path
  cases possible : Path.canBeFile path with
  | false =>
    constructor
    · intro refused
      exact .impossible possible refused
    · rintro (⟨possible', -⟩ | ⟨-, refused⟩)
      · simp [possible] at possible'
      · exact refused
  | true =>
    obtain ⟨parent, isDirectory⟩ := exists_directory_above h split possible
    have leads := leadsToDirectory_iff split possible isDirectory
    rw [target_of_canBeFile possible split, isDirectory]
    dsimp only
    constructor
    · intro refused
      split at refused
      · rename_i here
        rw [Except.error.injEq] at refused
        exact refused ▸ .isDirectory possible (leads.2 here)
      · simp at refused
    · rintro (⟨-, met⟩ | ⟨impossible, -⟩)
      · rw [if_pos (leads.1 met)]
      · simp [possible] at impossible

theorem install_eq_stage_iff {content : ByteArray} {fault : Fault} :
    t.install path content = .error (.stage fault) ↔ t.NotStaged path fault := by
  rw [← stagingDirectory_eq_error_iff, install]
  cases t.stagingDirectory path with
  | error fault => simp
  | ok staging => cases t.target path <;> simp

theorem install_eq_move_iff {content : ByteArray} {fault : Fault} :
    t.install path content = .error (.move fault) ↔ t.CanStage path ∧ t.NotMoved path fault := by
  rw [install]
  cases staging : t.stagingDirectory path with
  | error fault =>
    have none : ¬t.CanStage path := by
      rw [← exists_stagingDirectory_iff, staging]
      simp
    simp [none]
  | ok place =>
    have can : t.CanStage path := exists_stagingDirectory_iff.1 ⟨place, staging⟩
    rw [← target_eq_error_iff can]
    cases t.target path <;> simp [can]

theorem not_notStaged {fault : Fault} (h : t.CanStage path) : ¬t.NotStaged path fault := by
  obtain ⟨place, staging⟩ := exists_stagingDirectory_iff.2 h
  rw [← stagingDirectory_eq_error_iff, staging]
  simp

/-- **When a file is put in its place**: it can be staged, and the path can be that of a file and
does not lead to a directory. -/
theorem exists_install_iff {content : ByteArray} :
    (∃ t', t.install path content = .ok t') ↔ t.CanStage path ∧ Path.canBeFile path = true ∧
      ¬t.LeadsToDirectory (Path.components path) := by
  constructor
  · rintro ⟨t', installed⟩
    obtain ⟨staging, place, target, -⟩ := install_eq_ok_iff.1 installed
    have can : t.CanStage path := exists_stagingDirectory_iff.1 staging
    have possible := canBeFile_of_target target
    refine ⟨can, possible, fun leads => ?_⟩
    have refused := (target_eq_error_iff can).2 (.isDirectory possible leads)
    simp [target] at refused
  · rintro ⟨can, possible, free⟩
    cases installed : t.install path content with
    | ok t' => exact ⟨t', rfl⟩
    | error fault =>
      cases fault with
      | stage fault => exact absurd (install_eq_stage_iff.1 installed) (not_notStaged can)
      | move fault =>
        rcases (install_eq_move_iff.1 installed).2 with ⟨-, leads⟩ | ⟨impossible, -⟩
        · exact absurd leads free
        · simp [possible] at impossible

end FileTree

end CounterTrace
