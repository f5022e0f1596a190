import CounterTrace.FileTree.Install
import CounterTrace.StableSort

/-!
# Working on a file tree by hand

Directories are made, and files are written and removed, by their paths.  What is missing on the way
is made, as far as nothing is in the way; where a path is ruled out, nothing happens.  A directory
is listed with everything below it.
-/

namespace CounterTrace.FileTree

/-- Makes the directories that are missing where components lead from a location.  Stops at
a file, and at a component that is too long. -/
def makeFrom (t : FileTree) : Location → List String → FileTree
  | _, [] => t
  | place, component :: components =>
    let next := enter place component
    if Path.isNameTooLong component then t
    else match t.node? next with
    | none => (t.set next .directory).makeFrom next components
    | some (.file _) => t
    | some .directory => t.makeFrom next components

/-- Makes a directory, with those above it that are missing.  Does nothing for a path that is
ruled out. -/
def makeDirectory (t : FileTree) (path : String) : FileTree :=
  if (pathFault? path).isSome then t
  else t.makeFrom [] (Path.components path)

/-- Writes a file, making the directories above it that are missing.  Does nothing where the
path cannot be one of a file. -/
def putFile (t : FileTree) (path : String) (content : ByteArray) : FileTree :=
  let made := t.makeFrom [] (Path.components path).dropLast
  match made.target path with
  | .error _ => t
  | .ok place => made.set place (.file content)

/-- Removes a file.  Does nothing where there is none. -/
def removeFile (t : FileTree) (path : String) : FileTree :=
  match t.locate path with
  | .error _ => t
  | .ok place =>
    match t.node? place with
    | some (.file _) => t.remove place
    | _ => t

/-- The path of a location as seen from the root. -/
def pathOf (place : Location) : String :=
  Path.ofComponents place.reverse

/-- Everything below a directory, as paths from there in the order of their characters.  A
directory's path ends in a slash. -/
def listing (t : FileTree) (place : Location) : List String :=
  let below := t.nodes.entries.filter fun e => place.isSuffixOf e.1 && e.1 != place
  sortBy (fun a b => decide (a ≤ b)) <| below.map fun e =>
    pathOf (e.1.take (e.1.length - place.length)) ++ if e.2 = .directory then "/" else ""

end CounterTrace.FileTree
