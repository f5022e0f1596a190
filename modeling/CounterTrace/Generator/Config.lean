import CounterTrace.Manifest.File
import CounterTrace.Path
import CounterTrace.Script.Config

/-!
# Options of a generator

A generator reads a manifest and writes a script.  The names of both files are seen from one
directory.
-/

namespace CounterTrace.Generator

/-- Where a generator reads and writes, and the words of its scripts. -/
structure Config where
  /-- The directory that the other names are seen from. -/
  workDir : String := "."
  manifestFile : String := Manifest.defaultFile
  outputFile : String := Script.defaultFile
  script : Script.Config := {}
deriving DecidableEq, Repr, Inhabited

/-- The path of the manifest. -/
def Config.manifestPath (c : Config) : String :=
  Path.join c.workDir c.manifestFile

/-- The path of the script. -/
def Config.outputPath (c : Config) : String :=
  Path.join c.workDir c.outputFile

end CounterTrace.Generator
