import CounterTrace.Script.Block
import CounterTrace.Script.Config
import CounterTrace.Text.Line
import CounterTrace.Text.Literal

/-!
# The text of a script

A script has three parts.  Its begin part sets up the results and lists every counter.  Then
there is a probe for each block that has one: at the lines given, it reads the counters of
the block and adds what they show to the results, tile by tile.  The end part writes the
results to a file.

Values stand in literals, where quotes and backslashes are escaped.  The name of a control
program also stands outside of literals, and there as it is.
-/

namespace CounterTrace

open Text (escaped quoted unlines)

/-- What is in a script. -/
structure Script where
  /-- The words its maker chose. -/
  config : Script.Config
  /-- Every counter, for the list in the begin part. -/
  counters : List Descriptor
  /-- The control programs, in the order of their probes. -/
  blocks : List Block

namespace Script

/-- The lines of a list, of one item a line, with a comma after each item but the last. -/
def itemLines : List String → List String
  | [] => []
  | [item] => [item]
  | item :: items => (item ++ ",") :: itemLines items

/-- A named value in an object. -/
def field (name value : String) : String :=
  quoted name ++ ": " ++ value

/-- An object on a line of its own, within a list. -/
def object (fields : List String) : String :=
  "        \x7b" ++ ", ".intercalate fields ++ "\x7d"

/-- The variable that holds the value of the counter at a place of a block. -/
def counterVariable (i : Nat) : String :=
  "ctr_" ++ toString i

/-- The entry of a counter in the list of all counters.  It gives no metric set and no
direction where there is none. -/
def counterEntry (d : Descriptor) : String :=
  object (
    [field "column" (toString d.tile.column.toNat),
      field "row" (toString d.tile.row.toNat),
      field "counter" (toString d.number.toNat),
      field "module" (quoted d.moduleName),
      field "address" (quoted (formatAddress d.address))]
    ++ (d.metricSet.map fun name => field "metric_set" (quoted name)).toList
    ++ (d.direction.map fun direction => field "port_direction" (quoted direction.name)).toList)

/-- The comment lines at the top, and an empty line below if there are any. -/
def bannerLines (banner : List String) : List String :=
  if banner.isEmpty then [] else banner.map ("# " ++ ·) ++ [""]

/-- The lines of the begin part. -/
def beginLines (config : Config) (counters : List Descriptor) : List String :=
  bannerLines config.banner
  ++ ["begin",
    "\x7b",
    "    ts_start = timestamp32()",
    "    print(\"\\n" ++ escaped config.title ++ " tracing started\\n\")",
    "@blockopen",
    "import json",
    "import os",
    "",
    "# Initialize data collection",
    "profile_data = \x7b",
    "    \"start_timestamp\": ts_start,",
    "    \"counter_metadata\": ["]
  ++ itemLines (counters.map counterEntry)
  ++ ["    ],",
    "    \"probes\": []",
    "\x7d",
    "@blockclose",
    "\x7d",
    ""]

/-- The line that reads the counter at a place of a block. -/
def readLine (d : Descriptor) (i : Nat) : String :=
  "    " ++ counterVariable i ++ " = read_reg(" ++ formatAddress d.address ++ ")"

/-- The entry of a tile in the list of what a probe reads. -/
def groupEntry (g : TileGroup) : String :=
  object
    [field "col" (toString g.tile.column.toNat),
      field "row" (toString g.tile.row.toNat),
      field "counters" ("[" ++ ", ".intercalate (g.members.map counterVariable) ++ "]")]

/-- The comment line above a probe. -/
def probeComment (r : Instrumentation) : String :=
  "# Probes for " ++ r.baseName ++ " (columns " ++ toString r.firstColumn.toNat ++ "-"
    ++ toString r.lastColumn.toNat ++ ")"

/-- The line that says where a probe fires. -/
def probeLine (r : Instrumentation) : String :=
  "jprobe:" ++ r.baseName ++ ":uc" ++ toString r.core.toNat ++ ":line"
    ++ ",".intercalate (r.lines.map fun line => toString line.toNat)

/-- The lines of a probe. -/
def probeLines (b : Block) : List String :=
  [probeComment b.record,
    probeLine b.record,
    "\x7b",
    "    ts = timestamp32()"]
  ++ b.counters.zipIdx.map (fun c => readLine c.1 c.2)
  ++ ["    print(f\"Probe fired: ts=\x7bts\x7d\")",
    "@blockopen",
    "profile_data[\"probes\"].append(\x7b",
    "    \"asm_file\": " ++ quoted b.record.baseName ++ ",",
    "    \"timestamp\": ts,",
    "    \"tiles\": ["]
  ++ itemLines (b.groups.map groupEntry)
  ++ ["    ]",
    "\x7d)",
    "@blockclose",
    "\x7d",
    ""]

/-- The lines of the end part. -/
def endLines (config : Config) : List String :=
  ["end",
    "\x7b",
    "    ts_end = timestamp32()",
    "    print(\"\\n" ++ escaped config.title ++ " tracing ended\\n\")",
    "@blockopen",
    "profile_data[\"end_timestamp\"] = ts_end",
    "profile_data[\"total_time\"] = ts_end - profile_data[\"start_timestamp\"]",
    "",
    "output_path = os.path.join(os.getcwd(), " ++ quoted config.resultsFile ++ ")",
    "with open(output_path, \"w\") as f:",
    "    json.dump(profile_data, f, indent=2)",
    "print(f\"Profile data written to \x7boutput_path\x7d\")",
    "@blockclose",
    "\x7d"]

/-- The lines of the probes: those of the blocks that have one. -/
def allProbeLines (blocks : List Block) : List String :=
  (blocks.filter Block.isEmittable).flatMap probeLines

/-- The lines of a script. -/
def lines (s : Script) : List String :=
  beginLines s.config s.counters ++ allProbeLines s.blocks ++ endLines s.config

/-- The text of a script. -/
def text (s : Script) : String :=
  unlines s.lines

end Script

end CounterTrace
