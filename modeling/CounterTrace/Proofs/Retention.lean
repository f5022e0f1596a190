import CounterTrace.Proofs.Overwriting

/-!
# What a change to a file tree leaves alone

A path leads to the same location in every tree in which it can be followed.  Whoever writes or
removes a file changes what there is at that location, and may make directories where there was
nothing.  All else stays: every directory, and every file at another location.
-/

namespace CounterTrace.FileTree

variable {t t' t'' : FileTree} {place : Location} {path : String}

/-- The location to which a path leads in every tree in which it can be followed. -/
def placeOf (path : String) : Location :=
  (Path.components path).foldl enter []

/-- Where components lead does not depend on the tree. -/
theorem eq_foldl_enter_of_walk {start next : Location} {components : List String}
    (h : t.walk start components = .ok next) : next = components.foldl enter start := by
  induction components generalizing start with
  | nil => exact (Except.ok.inj h).symm
  | cons c cs ih =>
    obtain ⟨-, -, further⟩ := walk_cons_eq_ok_iff.1 h
    exact ih further

theorem eq_placeOf_of_locate (h : t.locate path = .ok place) : place = placeOf path :=
  eq_foldl_enter_of_walk (locate_eq_ok_iff.1 h).2.2

/-- A file is moved to where its path leads. -/
theorem eq_placeOf_of_target (h : t.target path = .ok place) : place = placeOf path := by
  obtain ⟨above, name, split⟩ := Path.exists_components_eq path
  obtain ⟨possible, parent, isDirectory, rfl, -⟩ := (target_eq_ok_iff split).1 h
  obtain ⟨-, -, named, -⟩ := (Path.canBeFile_iff split).1 possible
  have follow := (directory_eq_ok_iff.1 isDirectory).1
  rw [placeOf, split, List.foldl_append, ← eq_foldl_enter_of_walk follow]
  exact (enter_of_isName named parent).symm

/-- All that there is in the first tree is there in the second, but for files at the given
locations. -/
def Retains (t t' : FileTree) (touched : List Location) : Prop :=
  ∀ place node, t.node? place = some node → node = .directory ∨ place ∉ touched →
    t'.node? place = some node

theorem Retains.refl (t : FileTree) (touched : List Location) : t.Retains t touched :=
  fun _ _ here _ => here

theorem Retains.trans {touched touched' : List Location} (first : t.Retains t' touched)
    (second : t'.Retains t'' touched') : t.Retains t'' (touched ++ touched') := by
  intro place node here spared
  rw [List.mem_append, not_or] at spared
  have between : t'.node? place = some node := first place node here (spared.imp_right And.left)
  exact second place node between (spared.imp_right And.right)

theorem Retains.keepsDirectories {touched : List Location} (h : t.Retains t' touched) :
    t.KeepsDirectories t' :=
  fun place here => h place .directory here (.inl rfl)

/-- A file changes where there was no directory. -/
theorem retains_set {content : ByteArray} (nonroot : place ≠ [])
    (noDirectory : t.node? place ≠ some .directory) :
    t.Retains (t.set place (.file content)) [place] := by
  intro other node here spared
  rw [set_eq_of_ne_nil t _ nonroot]
  by_cases same : other = place
  · subst same
    rcases spared with rfl | apart
    · exact absurd here noDirectory
    · simp at apart
  · rw [if_neg same, here]

/-- Making directories touches nothing that is there. -/
theorem retains_makeFrom (start : Location) (components : List String) :
    t.Retains (t.makeFrom start components) [] := by
  fun_induction makeFrom t start components with
  | case1 t => exact .refl t []
  | case2 t => exact .refl t []
  | case3 t start c cs next short nothing ih =>
    have nonroot : next ≠ [] := by
      intro isRoot
      simp [isRoot, node?] at nothing
    intro place node here spared
    refine ih place node ?_ spared
    rw [set_eq_of_ne_nil t _ nonroot, if_neg, here]
    rintro rfl
    simp [nothing] at here
  | case4 t => exact .refl t []
  | case5 t start c cs next short isDirectory ih => exact ih

theorem retains_makeDirectory (t : FileTree) (path : String) :
    t.Retains (t.makeDirectory path) [] := by
  rw [makeDirectory]
  split
  · exact .refl t []
  · exact retains_makeFrom _ _

/-- Writing a file touches the location of its path. -/
theorem retains_putFile (t : FileTree) (path : String) (content : ByteArray) :
    t.Retains (t.putFile path content) [placeOf path] := by
  rw [putFile]
  have made := t.retains_makeFrom [] (Path.components path).dropLast
  cases target : (t.makeFrom [] (Path.components path).dropLast).target path with
  | error fault => exact .refl t _
  | ok place =>
    obtain rfl := eq_placeOf_of_target target
    exact made.trans (retains_set (ne_nil_of_target target) (ne_directory_of_target target))

/-- So does removing it. -/
theorem retains_removeFile (t : FileTree) (path : String) :
    t.Retains (t.removeFile path) [placeOf path] := by
  rw [removeFile]
  cases located : t.locate path with
  | error fault => exact .refl t _
  | ok place =>
    obtain rfl := eq_placeOf_of_locate located
    dsimp only
    split
    · rename_i isFile
      intro other node here spared
      have apart : other ≠ placeOf path := by
        rintro rfl
        rcases spared with rfl | apart
        · simp [isFile] at here
        · simp at apart
      cases other with
      | nil => exact here
      | cons name above => exact (Table.get?_erase _ _ _).trans ((if_neg apart).trans here)
    · exact .refl t _

/-- So does putting it in its place. -/
theorem retains_install {content : ByteArray} (h : t.install path content = .ok t') :
    t.Retains t' [placeOf path] := by
  obtain ⟨-, place, target, rfl⟩ := install_eq_ok_iff.1 h
  obtain rfl := eq_placeOf_of_target target
  exact retains_set (ne_nil_of_target target) (ne_directory_of_target target)

theorem KeepsDirectories.leadsToDirectory (keeps : t.KeepsDirectories t')
    {components : List String} (h : t.LeadsToDirectory components) :
    t'.LeadsToDirectory components := by
  obtain ⟨place, follow, here⟩ := h
  exact ⟨place, keeps.walk follow, keeps place here⟩

theorem KeepsDirectories.canStage (keeps : t.KeepsDirectories t') (h : t.CanStage path) :
    t'.CanStage path :=
  ⟨h.noNul, h.fits, keeps.leadsToDirectory h.isDirectory⟩

/-- A file that was read is read again, if it is still there. -/
theorem KeepsDirectories.read (keeps : t.KeepsDirectories t') {content : ByteArray}
    (h : t.read path = .ok content)
    (still : ∀ file, t.node? (placeOf path) = some (.file file) →
      t'.node? (placeOf path) = some (.file file)) : t'.read path = .ok content := by
  obtain ⟨place, located, isFile⟩ := read_eq_ok_iff.1 h
  obtain rfl := eq_placeOf_of_locate located
  obtain ⟨noNul, fits, follow⟩ := locate_eq_ok_iff.1 located
  exact read_eq_ok_iff.2
    ⟨placeOf path, locate_eq_ok_iff.2 ⟨noNul, fits, keeps.walk follow⟩, still content isFile⟩

end CounterTrace.FileTree
