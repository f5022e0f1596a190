import CounterTrace.Proofs.Install

/-!
# Staging leaves nothing behind

`FileTree.install` gives the tree from before for a file that cannot be put in its place, and
otherwise a tree that has the file under its path and nothing else new.  Underneath, the file is
staged: it is made under a name of its own in the directory above its path, and it is moved onto the
path or removed again.  Here the staged file is a file of the tree, and the outcome is shown to be
the same whichever name it has, as long as nothing else has that name.
-/

namespace CounterTrace

namespace Table

variable {κ ν : Type} [DecidableEq κ]

theorem find_eq_none_iff {k : κ} {es : List (κ × ν)} :
    find k es = none ↔ ∀ e ∈ es, e.1 ≠ k := by
  induction es with
  | nil => simp [find]
  | cons e es ih =>
    by_cases h : e.1 = k <;> simp [find, h, ih]

theorem put_of_find_eq_none {k : κ} {v : ν} {es : List (κ × ν)} (h : find k es = none) :
    put k v es = es ++ [(k, v)] := by
  induction es with
  | nil => rfl
  | cons e es ih =>
    have apart : e.1 ≠ k := find_eq_none_iff.1 h e (by simp)
    rw [find, if_neg apart] at h
    simp [put, apart, ih h]

/-- An entry under a new key is removed without a trace. -/
theorem erase_insert {t : Table κ ν} {k : κ} (h : t.get? k = none) (v : ν) :
    (t.insert k v).erase k = t := by
  have others : t.entries.filter (fun e => !decide (e.1 = k)) = t.entries := by
    refine List.filter_eq_self.2 fun e mem => ?_
    simpa using find_eq_none_iff.1 h e mem
  cases t
  simp only [erase, insert, mk.injEq]
  rw [put_of_find_eq_none h, List.filter_append, others]
  simp

end Table

namespace FileTree

/-- A name that a file can be staged under: nothing in the directory above its path has it, and the
path does not go through it. -/
structure IsFree (t : FileTree) (path name : String) : Prop where
  unused : ∀ directory, t.stagingDirectory path = .ok directory →
    t.node? (name :: directory) = none
  apart : name ∉ Path.components path

variable {t : FileTree} {name : String} {staging : Location} {node : Node}

theorem mem_of_mem_enter {place : Location} {c x : String} (h : x ∈ enter place c) :
    x ∈ place ∨ x = c := by
  unfold enter at h
  split at h
  · exact .inl h
  · split at h
    · exact .inl (List.mem_of_mem_tail h)
    · exact (List.mem_cons.1 h).symm

/-- A path leads to names that are its components. -/
theorem mem_of_walk {start place : Location} {components : List String} {x : String}
    (follow : t.walk start components = .ok place) (mem : x ∈ place) :
    x ∈ start ∨ x ∈ components := by
  induction components generalizing start with
  | nil =>
    rw [walk, Except.ok.injEq] at follow
    exact .inl (follow ▸ mem)
  | cons c cs ih =>
    obtain ⟨-, -, further⟩ := walk_cons_eq_ok_iff.1 follow
    rcases ih further with here | later
    · exact (mem_of_mem_enter here).imp id (by simp +contextual)
    · exact .inr (List.mem_cons_of_mem c later)

theorem node?_set_of_notMem {place : Location} (apart : name ∉ place) :
    (t.set (name :: staging) node).node? place = t.node? place := by
  rw [set_eq_of_ne_nil t node (List.cons_ne_nil _ _), if_neg]
  rintro rfl
  simp at apart

/-- A path that does not use a name does not depend on what has that name. -/
theorem walk_set_of_notMem {start : Location} {components : List String} (atStart : name ∉ start)
    (apart : name ∉ components) :
    (t.set (name :: staging) node).walk start components = t.walk start components := by
  induction components generalizing start with
  | nil => rfl
  | cons c cs ih =>
    rw [List.mem_cons, not_or] at apart
    have further : name ∉ enter start c := fun mem =>
      (mem_of_mem_enter mem).elim atStart apart.1
    rw [walk, walk, node?_set_of_notMem atStart, ih further apart.2]

theorem directory_set_of_notMem {components : List String} (apart : name ∉ components) :
    (t.set (name :: staging) node).directory components = t.directory components := by
  rw [directory, directory, walk_set_of_notMem (List.not_mem_nil) apart]
  cases follow : t.walk [] components with
  | error fault => rfl
  | ok place =>
    have elsewhere : name ∉ place := fun mem =>
      (mem_of_walk follow mem).elim List.not_mem_nil apart
    simp only [node?_set_of_notMem elsewhere]

/-- What is left of a path and what is cut off at its end are components of the path. -/
theorem mem_of_splitLast {path last : String} {above : List String}
    (cut : Path.splitLast path = some (above, last)) :
    ∀ x ∈ last :: above, x ∈ Path.components path := by
  intro x mem
  rw [Path.splitLast] at cut
  split at cut
  · simp at cut
  rename_i last above found
  simp only [Option.some.injEq, Prod.mk.injEq] at cut
  obtain ⟨rfl, rfl⟩ := cut
  have kept : x ∈ last :: above := by simpa using mem
  rw [← found] at kept
  exact List.mem_reverse.1 ((List.dropWhile_suffix _).mem kept)

/-- **A staged file is not in the way** of where it is moved. -/
theorem target_set_of_notMem {path : String} (apart : name ∉ Path.components path) :
    (t.set (name :: staging) node).target path = t.target path := by
  rw [target, target]
  cases cut : Path.splitLast path with
  | none => rfl
  | some parts =>
    obtain ⟨above, last⟩ := parts
    have components := mem_of_splitLast cut
    have apartAbove : name ∉ above := fun mem => apart (components name (by simp [mem]))
    simp only [directory_set_of_notMem apartAbove]
    cases isDirectory : t.directory above with
    | error fault => rfl
    | ok place =>
      have elsewhere : name ∉ last :: place := by
        rw [List.mem_cons, not_or]
        refine ⟨fun same => apart (components name (by simp [same])), fun mem => ?_⟩
        exact (mem_of_walk (directory_eq_ok_iff.1 isDirectory).1 mem).elim List.not_mem_nil
          apartAbove
      simp only [node?_set_of_notMem elsewhere]

theorem exists_notMem (names : List String) : ∃ name, name ∉ names := by
  have bounded : ∃ n, ∀ name ∈ names, name.toList.length ≤ n := by
    induction names with
    | nil => exact ⟨0, nofun⟩
    | cons first names ih =>
      obtain ⟨n, bound⟩ := ih
      refine ⟨max first.toList.length n, List.forall_mem_cons.2 ⟨Nat.le_max_left _ _, ?_⟩⟩
      exact fun name mem => Nat.le_trans (bound name mem) (Nat.le_max_right _ _)
  -- A name that is longer than all of them is none of them.
  obtain ⟨n, bound⟩ := bounded
  refine ⟨String.ofList (List.replicate (n + 1) 'x'), fun mem => ?_⟩
  have tooLong := bound _ mem
  rw [String.toList_ofList, List.length_replicate] at tooLong
  omega

/-- There is always a name to stage a file under, as a tree has finitely many names. -/
theorem exists_isFree (t : FileTree) (path : String) : ∃ name, t.IsFree path name := by
  obtain ⟨name, new⟩ :=
    exists_notMem (t.nodes.entries.map (fun e => e.1.headD "") ++ Path.components path)
  rw [List.mem_append, not_or] at new
  refine ⟨name, fun directory _ => Table.find_eq_none_iff.2 fun e mem same => new.1 ?_, new.2⟩
  exact List.mem_map.2 ⟨e, mem, by rw [same, List.headD_cons]⟩

theorem remove_set (h : t.node? (name :: staging) = none) :
    (t.set (name :: staging) node).remove (name :: staging) = t :=
  congrArg FileTree.mk (Table.erase_insert h node)

/-- **Staging leaves nothing behind**: the outcome is the same as without it. -/
theorem installUnder_eq {path : String} (free : t.IsFree path name) (content : ByteArray) :
    t.installUnder name path content =
      match t.install path content with
      | .error fault => (.error fault, t)
      | .ok t' => (.ok (), t') := by
  simp only [installUnder, install]
  cases found : t.stagingDirectory path with
  | error fault => rfl
  | ok directory =>
    simp only [target_set_of_notMem free.apart, remove_set (free.unused directory found)]
    cases t.target path <;> rfl

end FileTree

end CounterTrace
