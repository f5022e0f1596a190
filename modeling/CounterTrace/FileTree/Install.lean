import CounterTrace.FileTree.Basic

/-!
# Putting a file in its place

A finished file is put in its place in two steps, so that nobody ever sees half of it: it is
staged in the directory it belongs to, under a short name of its own, and then moved onto its
path.  The first step fails where that directory is missing or is a file, the second one where
the path leads to a directory.  A path that ends in a slash, or in `.` or `..`, is never one
for a file, nor is one that is too long or holds a NUL character.
-/

namespace CounterTrace.FileTree

/-- Why a finished file cannot be put in its place. -/
inductive InstallFault where
  /-- It cannot be staged. -/
  | stage (fault : Fault)
  /-- It cannot be moved onto its path. -/
  | move (fault : Fault)
deriving DecidableEq, Repr

/-- How many bytes the name of a staged file, with the slash before it, adds to the path of
its directory. -/
def stagedBytes : Nat := 11

/-- The directory in which a file is staged that is to be moved onto a path. -/
def stagingDirectory (t : FileTree) (path : String) : Except Fault Location :=
  let above := Path.parent path
  if above.any Path.hasNul then .error .nul
  else if Path.maxBytes < (Path.ofComponents above).utf8ByteSize + stagedBytes then
    .error .tooLong
  else t.directory above

/-- The location onto which a file can be moved under a path. -/
def target (t : FileTree) (path : String) : Except Fault Location :=
  if Path.hasNul path then .error .invalid
  else if Path.isTooLong path then .error .tooLong
  else match Path.splitLast path with
  | none => .error .noName
  | some (above, name) =>
    match t.directory above with
    | .error fault => .error fault
    | .ok place =>
      if Path.staysPut name ∨ name = ".." then .error .noName
      else if Path.isNameTooLong name then .error .tooLong
      else if Path.endsInSlash path then .error .notDirectory
      else if t.node? (name :: place) = some .directory then .error .isDirectory
      else .ok (name :: place)

/-- Puts a finished file in its place, over a file that may be there. -/
def install (t : FileTree) (path : String) (content : ByteArray) :
    Except InstallFault FileTree :=
  match t.stagingDirectory path with
  | .error fault => .error (.stage fault)
  | .ok _ =>
    match t.target path with
    | .error fault => .error (.move fault)
    | .ok place => .ok (t.set place (.file content))

/-- The tree without what is at a location. -/
def remove (t : FileTree) (place : Location) : FileTree :=
  ⟨t.nodes.erase place⟩

/-- Puts a finished file in its place: stages it under a name in the directory above its path, moves
it onto the path, or removes it again if it cannot be moved. -/
def installUnder (t : FileTree) (name path : String) (content : ByteArray) :
    Except InstallFault Unit × FileTree :=
  match t.stagingDirectory path with
  | .error fault => (.error (.stage fault), t)
  | .ok directory =>
    let staged := t.set (name :: directory) (.file content)
    match staged.target path with
    | .error fault => (.error (.move fault), staged.remove (name :: directory))
    | .ok place =>
      (.ok (), (staged.remove (name :: directory)).set place (.file content))

/-- A NUL character is found before anything is looked up. -/
example : empty.target "no/a\x00" = .error .invalid ∧ empty.target "no/a" = .error .notFound := by
  constructor <;> rfl

end CounterTrace.FileTree
