/-!
# Paths

A path is text whose components stand between slashes.  Empty components and the
component `.` name nothing of their own: `a//b/./` and `a/b` lead to the same place.  Not
every text can be followed as a path: a path holds no NUL character, and there is a limit to
its bytes and to those of each component.
-/

namespace CounterTrace.Path

/-- The pieces of a path between its slashes. -/
def components (path : String) : List String :=
  (path.toList.splitOn '/').map String.ofList

/-- The path with the given components. -/
def ofComponents (components : List String) : String :=
  "/".intercalate components

/-- Whether a component leaves you where you are. -/
def staysPut (component : String) : Bool :=
  component = "" || component = "."

/-- The components of a path that lead somewhere. -/
def names (path : String) : List String :=
  (components path).filter fun component => !staysPut component

/-- Whether a path starts at the root. -/
def isAbsolute (path : String) : Bool :=
  path.toList.head? = some '/'

/-- The second path as seen from the first.  An absolute path is the same from everywhere.
Otherwise the two are joined by a slash, which is left out where the first path is empty or
ends in one; nothing else is tidied. -/
def join (base path : String) : String :=
  if isAbsolute path then path
  else if base.toList = [] ∨ base.toList.getLast? = some '/' then base ++ path
  else base ++ "/" ++ path

/-- The last name of a path.  A path without a name, or one that ends by going up, stands for
itself. -/
def baseName (path : String) : String :=
  match (names path).getLast? with
  | none => path
  | some name => if name = ".." then path else name

/-- Components without those at the end that stay put. -/
def dropStaying (components : List String) : List String :=
  (components.reverse.dropWhile staysPut).reverse

/-- The components of the directory that a path is in.  Those that stay put do not count at
the end, neither in the path nor in what is left of it without its last name. -/
def parent (path : String) : List String :=
  dropStaying (dropStaying (components path)).dropLast

/-- Whether a path ends in a slash. -/
def endsInSlash (path : String) : Bool :=
  path.toList.getLast? = some '/'

/-- A path cut into its last component and those before it.  Empty components at the end do
not count; a path of nothing else cannot be cut. -/
def splitLast (path : String) : Option (List String × String) :=
  match (components path).reverse.dropWhile fun component => component = "" with
  | [] => none
  | last :: above => some (above.reverse, last)

/-- The most bytes that a path may have in UTF-8. -/
def maxBytes : Nat := 4095

/-- The most bytes that a component may have in UTF-8. -/
def maxNameBytes : Nat := 255

/-- Whether a path holds a NUL character. -/
def hasNul (path : String) : Bool :=
  path.toList.contains '\x00'

/-- Whether a path has more bytes than a path may have. -/
def isTooLong (path : String) : Bool :=
  decide (maxBytes < path.utf8ByteSize)

/-- Whether a component has more bytes than a component may have. -/
def isNameTooLong (component : String) : Bool :=
  decide (maxNameBytes < component.utf8ByteSize)

/-- Components are never empty as a list: the empty path has one empty component. -/
theorem components_ne_nil (path : String) : components path ≠ [] := by
  simp [components, List.splitOn_ne_nil]

/-- A slash is added only where one is missing, and nothing is tidied. -/
example : join "." "a.ct" = "./a.ct" ∧ join "/d/" "./a.ct" = "/d/./a.ct" ∧ join "" "a.ct" = "a.ct"
    ∧ join "d" "" = "d/" ∧ join "d" "/a.ct" = "/a.ct" := by
  decide

/-- What follows the last name does not count, unless it goes up. -/
example : baseName "d/a.asm/./" = "a.asm" ∧ baseName "d/a.asm/.." = "d/a.asm/.." := by decide

/-- Inside the path of a directory components that stay put are kept. -/
example : parent "d/.//e/.//a.ct/." = ["d", ".", "", "e"] ∧ parent "d/.." = ["d"] ∧
    parent "/a.ct" = [] := by
  decide

/-- Limits are on bytes: 127 letters of two bytes fit into a name, and 128 do not. -/
example : isNameTooLong (String.ofList (List.replicate 127 'é')) = false ∧
    isNameTooLong (String.ofList (List.replicate 128 'é')) = true := by
  decide +kernel

end CounterTrace.Path
