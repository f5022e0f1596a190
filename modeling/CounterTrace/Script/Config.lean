/-!
# Script options

The maker of a script chooses the comment lines at its top, the name of the session, and the file
into which the script puts its results.
-/

namespace CounterTrace.Script

/-- The name a script has unless another is given. -/
def defaultFile : String := "aie_profile.ct"

/-- The name of a script's results unless another is given. -/
def defaultResultsFile : String := "aie_profile_counters.json"

/-- The words of a script that its maker may choose. -/
structure Config where
  /-- The comment lines at the top. -/
  banner : List String :=
    ["Auto-generated CT file for AIE Profile counters", "Generated by XRT AIE Profile Plugin"]
  /-- The name of the session, printed when tracing starts and ends. -/
  title : String := "AIE Profile"
  /-- The file into which the script puts its results. -/
  resultsFile : String := defaultResultsFile
deriving DecidableEq, Repr, Inhabited

end CounterTrace.Script
