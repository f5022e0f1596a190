import CounterTrace.FileTree.Basic
import CounterTrace.Manifest.Basic

/-!
# Manifests in files

A manifest is read from a file of a tree.  Where the file cannot be read, reading gives the reason,
and loading gives a manifest without records.
-/

namespace CounterTrace.Manifest

/-- The name a manifest has unless another is given. -/
def defaultFile : String := "aie_profile_timestamps.csv"

/-- Reads a manifest file. -/
def ofFile (files : FileTree) (path : String) : Except FileTree.Fault Manifest :=
  (files.readText path).map ofText

/-- The wording of what keeps a manifest from being read. -/
def faultMessage (fault : FileTree.Fault) : String :=
  "IO error: " ++ fault.message

/-- The text of a manifest file.  A file that cannot be read is as good as an empty one. -/
def textIn (files : FileTree) (path : String) : String :=
  match files.readText path with
  | .error _ => ""
  | .ok text => text

/-- Reads a manifest file, where one that cannot be read has no records. -/
def load (files : FileTree) (path : String) : Manifest :=
  ofText (textIn files path)

/-- What reading a manifest file complains about. -/
def fileWarnings (files : FileTree) (path : String) : List Warning :=
  warnings (textIn files path)

end CounterTrace.Manifest
