import CounterTrace.FileTree.Install

/-!
# What a file tree holds after a file is installed

A path is followed through directories only.  Installing a file changes what there is at one
location, which is not a directory, so every path that was followed before can be followed after.
Reading the path of the file then gives its content.
-/

namespace CounterTrace

namespace Path

theorem intercalate_append_singleton {α : Type} (sep : α) {ls : List (List α)} (nonempty : ls ≠ [])
    (l : List α) : [sep].intercalate (ls ++ [l]) = [sep].intercalate ls ++ sep :: l := by
  induction ls with
  | nil => exact absurd rfl nonempty
  | cons m ls ih =>
    cases ls with
    | nil => simp
    | cons n ls =>
      have rest := ih (by simp)
      simp only [List.cons_append] at rest
      simp [rest]

/-- A path whose last component is empty is empty itself or ends in a slash. -/
theorem endsInSlash_of_getLast? {path : String} (h : (components path).getLast? = some "") :
    components path = [""] ∨ endsInSlash path = true := by
  obtain ⟨init, split⟩ := List.getLast?_eq_some_iff.1 h
  cases init with
  | nil => exact .inl split
  | cons first init =>
    right
    have pieces : path.toList.splitOn '/' = (first :: init).map String.toList ++ [[]] := by
      have := congrArg (List.map String.toList) split
      simpa [components, Function.comp_def] using this
    have back : ['/'].intercalate (path.toList.splitOn '/') = path.toList :=
      List.intercalate_splitOn '/'
    rw [pieces, intercalate_append_singleton '/' (by simp)] at back
    simp [endsInSlash, ← back]

/-- A path cut before its last component, where it does not end in a slash. -/
theorem components_eq_of_splitLast {path name : String} {above : List String}
    (h : splitLast path = some (above, name)) (noSlash : endsInSlash path = false) :
    components path = above ++ [name] := by
  rw [splitLast] at h
  cases rev : (components path).reverse with
  | nil => exact absurd (List.reverse_eq_nil_iff.1 rev) (components_ne_nil path)
  | cons last rest =>
    have isLast : (components path).getLast? = some last := by
      rw [← List.head?_reverse, rev, List.head?_cons]
    have nonempty : last ≠ "" := by
      rintro rfl
      rcases endsInSlash_of_getLast? isLast with single | slash
      · simp [single] at h
      · simp [slash] at noSlash
    rw [rev, List.dropWhile_cons_of_neg (by simpa using nonempty)] at h
    simp only [Option.some.injEq, Prod.mk.injEq] at h
    obtain ⟨rfl, rfl⟩ := h
    rw [← List.reverse_reverse (components path), rev]
    simp

/-- Whether a component is a name, and not a way to stay or to go up. -/
def isName (component : String) : Bool :=
  !staysPut component && component ≠ ".."

/-- Whether a path can be that of a file: it holds no NUL character, is not too long, and its last
component is a name that is not too long. -/
def canBeFile (path : String) : Bool :=
  !hasNul path && !isTooLong path &&
    (components path).getLast?.any fun last => isName last && !isNameTooLong last

/-- Every path is cut before its last component. -/
theorem exists_components_eq (path : String) :
    ∃ above name, components path = above ++ [name] :=
  ⟨_, _, (List.dropLast_concat_getLast (components_ne_nil path)).symm⟩

theorem canBeFile_iff {path name : String} {above : List String}
    (split : components path = above ++ [name]) :
    canBeFile path = true ↔ hasNul path = false ∧ isTooLong path = false ∧ isName name = true ∧
      isNameTooLong name = false := by
  simp [canBeFile, split, and_assoc]

/-- A path whose last component is a name does not end in a slash. -/
theorem endsInSlash_eq_false {path name : String} {above : List String}
    (split : components path = above ++ [name]) (named : isName name = true) :
    endsInSlash path = false := by
  rw [Bool.eq_false_iff]
  intro slash
  obtain ⟨before, path_eq⟩ := List.getLast?_eq_some_iff.1 (of_decide_eq_true slash)
  have last : (components path).getLast? = some "" := by
    rw [components, path_eq, List.splitOn_append_cons_self]
    simp
  rw [split, List.getLast?_concat, Option.some.injEq] at last
  subst last
  exact absurd named (by decide)

/-- A path whose last component is a name is cut before it. -/
theorem splitLast_eq_some {path name : String} {above : List String}
    (split : components path = above ++ [name]) (named : isName name = true) :
    splitLast path = some (above, name) := by
  have nonempty : name ≠ "" := by
    rintro rfl
    exact absurd named (by decide)
  simp [splitLast, split, nonempty]

end Path

namespace FileTree

/-- A component is followed from a directory, if it is not too long. -/
theorem walk_cons_eq_ok_iff {t : FileTree} {place next : Location} {c : String}
    {cs : List String} :
    t.walk place (c :: cs) = .ok next ↔ t.node? place = some .directory ∧
      Path.isNameTooLong c = false ∧ t.walk (enter place c) cs = .ok next := by
  rw [walk]
  cases t.node? place with
  | none => simp
  | some node =>
    cases node with
    | file content => simp
    | directory => cases Path.isNameTooLong c <;> simp

theorem walk_append_eq_ok_iff {t : FileTree} {place next : Location} {as bs : List String} :
    t.walk place (as ++ bs) = .ok next ↔
      ∃ between, t.walk place as = .ok between ∧ t.walk between bs = .ok next := by
  induction as generalizing place with
  | nil => simp [walk]
  | cons a as ih =>
    rw [List.cons_append, walk_cons_eq_ok_iff, ih]
    simp only [walk_cons_eq_ok_iff]
    constructor
    · rintro ⟨here, short, between, first, rest⟩
      exact ⟨between, ⟨here, short, first⟩, rest⟩
    · rintro ⟨between, ⟨here, short, first⟩, rest⟩
      exact ⟨here, short, between, first, rest⟩

/-- Every directory of the first tree is one of the second. -/
def KeepsDirectories (t t' : FileTree) : Prop :=
  ∀ place, t.node? place = some .directory → t'.node? place = some .directory

/-- **A path is followed as before** where no directory is gone: every location that it is followed
from is that of a directory. -/
theorem KeepsDirectories.walk {t t' : FileTree} (keeps : t.KeepsDirectories t')
    {start next : Location} {components : List String} (h : t.walk start components = .ok next) :
    t'.walk start components = .ok next := by
  induction components generalizing start with
  | nil => exact h
  | cons c cs ih =>
    obtain ⟨here, short, rest⟩ := walk_cons_eq_ok_iff.1 h
    exact walk_cons_eq_ok_iff.2 ⟨keeps start here, short, ih rest⟩

/-- No directory is gone when a file changes. -/
theorem keepsDirectories_set {t : FileTree} {place : Location} (content : ByteArray)
    (nonroot : place ≠ []) (noDirectory : t.node? place ≠ some .directory) :
    t.KeepsDirectories (t.set place (.file content)) := by
  intro other here
  have apart : other ≠ place := by
    rintro rfl
    exact noDirectory here
  rw [set_eq_of_ne_nil t _ nonroot, if_neg apart, here]

theorem directory_eq_ok_iff {t : FileTree} {components : List String} {place : Location} :
    t.directory components = .ok place ↔
      t.walk [] components = .ok place ∧ t.node? place = some .directory := by
  rw [directory]
  cases t.walk [] components with
  | error fault => simp
  | ok next =>
    simp only [Except.ok.injEq]
    constructor
    · intro h
      split at h
      · simp at h
      · simp at h
      · rename_i here
        rw [Except.ok.injEq] at h
        exact ⟨h, h ▸ here⟩
    · rintro ⟨rfl, here⟩
      rw [here]

theorem KeepsDirectories.directory {t t' : FileTree} (keeps : t.KeepsDirectories t')
    {components : List String} {place : Location} (h : t.directory components = .ok place) :
    t'.directory components = .ok place := by
  obtain ⟨follow, here⟩ := directory_eq_ok_iff.1 h
  exact directory_eq_ok_iff.2 ⟨keeps.walk follow, keeps place here⟩

/-- Where a file is moved under a path that can be that of a file: to its last component, in the
directory that the others lead to. -/
theorem target_of_canBeFile {t : FileTree} {path name : String} {above : List String}
    (h : Path.canBeFile path = true) (split : Path.components path = above ++ [name]) :
    t.target path =
      match t.directory above with
      | .error fault => .error fault
      | .ok parent =>
        if t.node? (name :: parent) = some .directory then .error .isDirectory
        else .ok (name :: parent) := by
  obtain ⟨noNul, fits, named, short⟩ := (Path.canBeFile_iff split).1 h
  have leads : ¬(Path.staysPut name = true ∨ name = "..") := by simpa [Path.isName] using named
  have noSlash := Path.endsInSlash_eq_false split named
  cases isDirectory : t.directory above <;>
    simp only [target, noNul, fits, Path.splitLast_eq_some split named, leads, short, noSlash,
      isDirectory, Bool.false_eq_true, if_false]

/-- A file is moved only onto a path that can be that of a file. -/
theorem canBeFile_of_target {t : FileTree} {path : String} {place : Location}
    (h : t.target path = .ok place) : Path.canBeFile path = true := by
  rw [target] at h
  split at h
  · simp at h
  rename_i noNul
  split at h
  · simp at h
  rename_i fits
  split at h
  · simp at h
  rename_i above name cut
  split at h
  · simp at h
  split at h
  · simp at h
  rename_i leads
  split at h
  · simp at h
  rename_i short
  split at h
  · simp at h
  rename_i noSlash
  rw [Bool.not_eq_true] at noNul fits short noSlash
  refine (Path.canBeFile_iff (Path.components_eq_of_splitLast cut noSlash)).2
    ⟨noNul, fits, ?_, short⟩
  simpa [Path.isName] using leads

/-- **When a file can be moved onto a path**: the path can be that of a file, there is a directory
above it, and it does not lead to a directory itself. -/
theorem target_eq_ok_iff {t : FileTree} {path name : String} {above : List String}
    {place : Location} (split : Path.components path = above ++ [name]) :
    t.target path = .ok place ↔ Path.canBeFile path = true ∧
      ∃ parent, t.directory above = .ok parent ∧ place = name :: parent ∧
        t.node? place ≠ some .directory := by
  constructor
  · intro h
    have possible := canBeFile_of_target h
    rw [target_of_canBeFile possible split] at h
    refine ⟨possible, ?_⟩
    cases isDirectory : t.directory above with
    | error fault => simp [isDirectory] at h
    | ok parent =>
      simp only [isDirectory] at h
      split at h
      · simp at h
      rename_i noDirectory
      rw [Except.ok.injEq] at h
      subst h
      exact ⟨parent, rfl, rfl, noDirectory⟩
  · rintro ⟨possible, parent, isDirectory, rfl, noDirectory⟩
    rw [target_of_canBeFile possible split, isDirectory]
    exact if_neg noDirectory

theorem enter_of_isName {name : String} (named : Path.isName name = true) (place : Location) :
    enter place name = name :: place := by
  simp only [Path.isName, Bool.and_eq_true, Bool.not_eq_true', decide_eq_true_eq] at named
  simp [enter, named]

/-- What a path leads to when its last component is entered from a directory. -/
theorem locate_of_target {t : FileTree} {path : String} {place : Location} (content : ByteArray)
    (h : t.target path = .ok place) :
    (t.set place (.file content)).locate path = .ok place := by
  obtain ⟨above, name, split⟩ := Path.exists_components_eq path
  obtain ⟨possible, parent, isDirectory, rfl, noDirectory⟩ := (target_eq_ok_iff split).1 h
  obtain ⟨noNul, fits, named, short⟩ := (Path.canBeFile_iff split).1 possible
  obtain ⟨follow, here⟩ := directory_eq_ok_iff.1 isDirectory
  have before : t.walk [] (Path.components path) = .ok (name :: parent) := by
    rw [split]
    refine walk_append_eq_ok_iff.2 ⟨parent, follow, ?_⟩
    exact walk_cons_eq_ok_iff.2 ⟨here, short, by rw [walk, enter_of_isName named]⟩
  have noFault : pathFault? path = none := by simp [pathFault?, noNul, fits]
  rw [locate, noFault]
  exact (keepsDirectories_set content (List.cons_ne_nil _ _) noDirectory).walk before

theorem ne_nil_of_target {t : FileTree} {path : String} {place : Location}
    (h : t.target path = .ok place) : place ≠ [] := by
  obtain ⟨above, name, split⟩ := Path.exists_components_eq path
  obtain ⟨-, parent, -, rfl, -⟩ := (target_eq_ok_iff split).1 h
  exact List.cons_ne_nil _ _

theorem ne_directory_of_target {t : FileTree} {path : String} {place : Location}
    (h : t.target path = .ok place) : t.node? place ≠ some .directory := by
  obtain ⟨above, name, split⟩ := Path.exists_components_eq path
  obtain ⟨-, parent, -, -, noDirectory⟩ := (target_eq_ok_iff split).1 h
  exact noDirectory

theorem fromUTF8?_eq_some_iff {content : ByteArray} {text : String} :
    String.fromUTF8? content = some text ↔ content = text.toUTF8 := by
  rw [String.fromUTF8?]
  constructor
  · intro h
    split at h
    · rw [Option.some.injEq] at h
      exact h ▸ rfl
    · simp at h
  · rintro rfl
    exact dif_pos text.isValidUTF8

/-- The text of a file is its content. -/
theorem readText_eq_ok_iff {t : FileTree} {path text : String} :
    t.readText path = .ok text ↔ t.read path = .ok text.toUTF8 := by
  rw [readText]
  cases t.read path with
  | error fault => simp
  | ok content =>
    simp only [Except.ok.injEq, ← fromUTF8?_eq_some_iff]
    cases String.fromUTF8? content <;> simp

/-- **When a file is installed**: it can be staged and moved, and then the tree has it at its
location and is otherwise the same. -/
theorem install_eq_ok_iff {t t' : FileTree} {path : String} {content : ByteArray} :
    t.install path content = .ok t' ↔
      (∃ staging, t.stagingDirectory path = .ok staging) ∧
        ∃ place, t.target path = .ok place ∧ t' = t.set place (.file content) := by
  rw [install]
  cases t.stagingDirectory path with
  | error fault => simp
  | ok staging =>
    cases t.target path with
    | error fault => simp
    | ok place => simp [eq_comm]

/-- What is put where a path leads is read under that path. -/
theorem readText_set_of_target {t : FileTree} {path : String} {place : Location} (text : String)
    (h : t.target path = .ok place) :
    (t.set place (.file text.toUTF8)).readText path = .ok text := by
  rw [readText_eq_ok_iff, read, locate_of_target _ h]
  simp only [set_eq_of_ne_nil t _ (ne_nil_of_target h), if_true]

/-- **What has been installed is read.** -/
theorem readText_of_install {t t' : FileTree} {path text : String}
    (h : t.install path text.toUTF8 = .ok t') : t'.readText path = .ok text := by
  obtain ⟨-, place, target, rfl⟩ := install_eq_ok_iff.1 h
  exact readText_set_of_target text target

end FileTree

end CounterTrace
