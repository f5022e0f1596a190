import CounterTrace.Session.Basic

/-!
# The steps of a session

A step changes the files, the counters, the metric sets or the options of a session, or shows
something of them, or writes a script.  Every step has an answer.
-/

namespace CounterTrace.Session

/-- Options to be changed; those not given stay. -/
structure ConfigChange where
  manifestFile : Option String := none
  outputFile : Option String := none
  title : Option String := none
  resultsFile : Option String := none
  banner : Option (List String) := none
deriving DecidableEq, Repr

/-- The options after a change. -/
def ConfigChange.apply (change : ConfigChange) (config : Generator.Config) : Generator.Config where
  workDir := config.workDir
  manifestFile := change.manifestFile.getD config.manifestFile
  outputFile := change.outputFile.getD config.outputFile
  script :=
    { banner := change.banner.getD config.script.banner
      title := change.title.getD config.script.title
      resultsFile := change.resultsFile.getD config.script.resultsFile }

/-- What can be asked of a session.  Files are seen from the working directory, and counters
belong to a device.

Of the two ways to read a manifest, `loadManifest` takes a file that cannot be read for one
without records, and `readManifest` does not; of the two ways to write a script,
`generateOrSkip` answers a failure by going on without. -/
inductive Step where
  | putFile (file : String) (content : ByteArray)
  | makeDirectory (directory : String)
  | removeFile (file : String)
  | showFile (file : String)
  | listFiles
  | loadManifest (file : String)
  | readManifest (file : String)
  | addCounter (device : UInt64) (counter : Counter)
  | countCounters (device : UInt64)
  | showCounter (device : UInt64) (index : Nat)
  | nameMetricSet (metric : TileMetric)
  | showMetricSet (tile : Tile)
  | countMetricSets
  | putCollection (key : CollectionKey) (metrics : List TileMetric)
  | showCollection (key : CollectionKey)
  | useCollections
  | setShifts (column row : UInt8)
  | configure (change : ConfigChange)
  | generate (device : UInt64)
  | generateOrSkip (device : UInt64)

/-- What a session answers. -/
inductive Answer where
  | done
  /-- The text of a file, if it can be read and is text. -/
  | text (content : Option String)
  /-- The paths below the working directory. -/
  | paths (below : List String)
  | manifest (m : Manifest)
  /-- There is no manifest to read. -/
  | unreadable (fault : FileTree.Fault)
  /-- A number of counters. -/
  | count (n : Nat)
  | counter (counter : Option Counter)
  /-- Whether a name was stored, and how many tiles have one now. -/
  | stored (stored : Bool) (size : Nat)
  | metricSet (name : Option String)
  /-- How many tiles have a metric set. -/
  | metricSets (size : Nat) (isEmpty : Bool)
  /-- How many collections there are. -/
  | collections (size : Nat) (isEmpty : Bool)
  | collection (metrics : Option (List TileMetric))
  /-- What the collections came to. -/
  | used (sets : MetricSets) (collections : MetricCollections)
  /-- The paths that the options lead to. -/
  | configured (manifestPath outputPath : String)
  /-- A script was written, under a title. -/
  | report (report : Generator.Report) (title : String)
  | failed (failure : Generator.Failure)
  /-- Whether a script was written, where it does not matter why not. -/
  | generated (success : Bool)

end CounterTrace.Session
