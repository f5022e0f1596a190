import CounterTrace.Path
import CounterTrace.Table

/-!
# File trees

A file tree has directories and files below a root.  A path leads through it component by
component, and every component but the last has to be there and be a directory.  A component
that is too long is found out where it is looked up, in a directory; a path that is too long,
or holds a NUL character, before anything is looked up.
-/

namespace CounterTrace

/-- A place in a tree, as the names that lead to it from the root, the last name first. -/
abbrev Location := List String

/-- What there is at a location. -/
inductive Node where
  | directory
  | file (content : ByteArray)

/-- Files are the same if their contents are. -/
instance : DecidableEq Node
  | .directory, .directory => isTrue rfl
  | .directory, .file _ => isFalse nofun
  | .file _, .directory => isFalse nofun
  | .file a, .file b =>
    match a.decEq b with
    | isTrue h => isTrue (congrArg Node.file h)
    | isFalse h => isFalse fun same => h (Node.file.inj same)

/-- Directories and files below a root, which is a directory itself. -/
structure FileTree where
  /-- What there is below the root. -/
  nodes : Table Location Node

namespace FileTree

/-- Why a path cannot be used. -/
inductive Fault where
  /-- A component is not there. -/
  | notFound
  /-- A component that should lead on is a file. -/
  | notDirectory
  /-- The path leads to a directory where a file is wanted. -/
  | isDirectory
  /-- The path ends in a component that is no name of its own. -/
  | noName
  /-- The file is not text. -/
  | notText
  /-- The path, or one of its components, has too many bytes. -/
  | tooLong
  /-- The path holds a NUL character. -/
  | nul
  /-- The path holds a NUL character, and a file was to be moved onto it. -/
  | invalid
deriving DecidableEq, Repr

/-- The wording of a fault. -/
def Fault.message : Fault → String
  | .notFound => "No such file or directory (os error 2)"
  | .notDirectory => "Not a directory (os error 20)"
  | .isDirectory => "Is a directory (os error 21)"
  | .noName => "Device or resource busy (os error 16)"
  | .notText => "stream did not contain valid UTF-8"
  | .tooLong => "File name too long (os error 36)"
  | .nul => "file name contained an unexpected NUL byte"
  | .invalid => "Invalid argument (os error 22)"

/-- The tree with nothing but its root. -/
def empty : FileTree :=
  ⟨.empty⟩

instance : Inhabited FileTree := ⟨empty⟩

/-- What there is at a location. -/
def node? (t : FileTree) : Location → Option Node
  | [] => some .directory
  | name :: above => t.nodes.get? (name :: above)

/-- The tree with the node at the location. -/
def set (t : FileTree) (place : Location) (node : Node) : FileTree :=
  ⟨t.nodes.insert place node⟩

/-- Where a component leads from a directory. -/
def enter (place : Location) (component : String) : Location :=
  if Path.staysPut component then place
  else if component = ".." then place.tail
  else component :: place

/-- Follows components from a location.  Each has to be followed from a directory, and must
not be too long; where the last one leads there may be nothing. -/
def walk (t : FileTree) : Location → List String → Except Fault Location
  | place, [] => .ok place
  | place, component :: components =>
    match t.node? place with
    | none => .error .notFound
    | some (.file _) => .error .notDirectory
    | some .directory =>
      if Path.isNameTooLong component then .error .tooLong
      else t.walk (enter place component) components

/-- What rules a path out in any tree. -/
def pathFault? (path : String) : Option Fault :=
  if Path.hasNul path then some .nul
  else if Path.isTooLong path then some .tooLong
  else none

/-- The location a path leads to. -/
def locate (t : FileTree) (path : String) : Except Fault Location :=
  match pathFault? path with
  | some fault => .error fault
  | none => t.walk [] (Path.components path)

/-- The directory that components lead to. -/
def directory (t : FileTree) (components : List String) : Except Fault Location :=
  match t.walk [] components with
  | .error fault => .error fault
  | .ok place =>
    match t.node? place with
    | none => .error .notFound
    | some (.file _) => .error .notDirectory
    | some .directory => .ok place

/-- The content of a file. -/
def read (t : FileTree) (path : String) : Except Fault ByteArray :=
  match t.locate path with
  | .error fault => .error fault
  | .ok place =>
    match t.node? place with
    | none => .error .notFound
    | some .directory => .error .isDirectory
    | some (.file content) => .ok content

/-- The content of a file that is text, in UTF-8. -/
def readText (t : FileTree) (path : String) : Except Fault String :=
  match t.read path with
  | .error fault => .error fault
  | .ok content =>
    match String.fromUTF8? content with
    | none => .error .notText
    | some text => .ok text

theorem set_eq_of_ne_nil (t : FileTree) {place place' : Location} (node : Node)
    (h : place ≠ []) :
    (t.set place node).node? place' = if place' = place then some node else t.node? place' := by
  cases place' with
  | nil => simp [node?, h.symm]
  | cons name above => simp [node?, set]

end FileTree

end CounterTrace
