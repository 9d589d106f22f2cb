import PageHarvest.Settings.Basic
import PageHarvest.Toml.Printer
import PageHarvest.Toml.Reader

/-!
# Settings as texts

Settings are read from TOML and written to it. A section or an entry that is missing has its
default; entries that are not settings are ignored.
-/

namespace PageHarvest

/-- The entries of a section with the given fields. A list gives them in this order, and its further
items are ignored. -/
def Tree.section? (fields : List String) : Tree → Option (Entries Tree)
  | .list items => Tree.record? fields (.list (items.take fields.length))
  | t => Tree.record? fields t

namespace LoopCaps

def ofTree? (t : Tree) : Option LoopCaps := do
  let es ← Tree.section?
    ["while_max_iterations", "for_max_iterations", "for_each_max_iterations"] t
  let number (default : Nat) (name : String) := Tree.orDefault? (Tree.nat? Json.max64) default name es
  let d : LoopCaps := {}
  return {
    whileLoops := ← number d.whileLoops "while_max_iterations"
    countedLoops := ← number d.countedLoops "for_max_iterations"
    forEachLoops := ← number d.forEachLoops "for_each_max_iterations" }

end LoopCaps

namespace ExtractionSettings

def ofTree? (t : Tree) : Option ExtractionSettings := do
  let es ← Tree.section?
    ["max_rule_depth", "default_wait_between_pages_ms", "default_max_pages", "absolutize_urls"] t
  let number (limit default : Nat) (name : String) :=
    Tree.orDefault? (Tree.nat? limit) default name es
  let d : ExtractionSettings := {}
  return {
    maxRuleDepth := ← number Json.max64 d.maxRuleDepth "max_rule_depth"
    waitBetweenPages := ← number Json.max64 d.waitBetweenPages "default_wait_between_pages_ms"
    maxPages := ← number Json.max32 d.maxPages "default_max_pages"
    absolutizeUrls := ← Tree.orDefault? Tree.truth? d.absolutizeUrls "absolutize_urls" es }

end ExtractionSettings

namespace ExportSettings

def ofTree? (d : ExportSettings) (t : Tree) : Option ExportSettings := do
  let es ← Tree.section? ["default_format", "output_directory", "pretty_json"] t
  return {
    format := ← Tree.orDefault? Tree.text? d.format "default_format" es
    directory := ← Tree.orDefault? Tree.text? d.directory "output_directory" es
    isPretty := ← Tree.orDefault? Tree.truth? d.isPretty "pretty_json" es }

end ExportSettings

namespace LogSettings

def ofTree? (d : LogSettings) (t : Tree) : Option LogSettings := do
  let es ← Tree.section?
    ["level", "file_enabled", "console_enabled", "max_files", "log_directory",
      "include_targets"] t
  let truth (default : Bool) (name : String) := Tree.orDefault? Tree.truth? default name es
  return {
    level := ← Tree.orDefault? Tree.text? d.level "level" es
    toFile := ← truth d.toFile "file_enabled"
    toConsole := ← truth d.toConsole "console_enabled"
    maxFiles := ← Tree.orDefault? (Tree.nat? Json.max64) d.maxFiles "max_files" es
    directory := ← Tree.orDefault? Tree.text? d.directory "log_directory" es
    includeTargets := ← truth d.includeTargets "include_targets" }

end LogSettings

namespace Settings

/-- The settings that a tree denotes; what it leaves out is as in `d`. -/
def ofTree? (d : Settings) (t : Tree) : Option Settings := do
  let es ← Tree.record? ["engine", "extraction", "export", "logging"] t
  return {
    loops := ← Tree.orDefault? LoopCaps.ofTree? d.loops "engine" es
    extraction := ← Tree.orDefault? ExtractionSettings.ofTree? d.extraction "extraction" es
    exporting := ← Tree.orDefault? d.exporting.ofTree? d.exporting "export" es
    logging := ← Tree.orDefault? d.logging.ofTree? d.logging "logging" es }

/-- The settings in the text of a file, whose path goes into the fault. -/
def read (d : Settings) (path text : String) : Except Fault Settings :=
  match (Toml.read? text).bind d.ofTree? with
  | some s => do
    s.check
    return s
  | none => .error (.configuration (path ++ ": the TOML text does not hold settings"))

/-- The settings in a file, given its text if it is there. -/
def load (d : Settings) (path : String) : Option String → Except Fault Settings
  | some text => d.read path text
  | none => .error (.unreadableConfiguration path)

/-- The settings as a text. It has no place for numbers of more than 63 bits. -/
def write (s : Settings) : Except Fault String :=
  match Toml.write? s.sections with
  | some text => .ok text
  | none => .error (.configuration "out-of-range value for u64 type")

end Settings

end PageHarvest
