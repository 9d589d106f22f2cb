import PageHarvest.Extraction.Settings
import PageHarvest.Fault
import PageHarvest.Flow.Expansion

/-!
# Settings

What can be set for the whole program, in four sections. `check` tells the first setting that
nothing could work with.
-/

namespace PageHarvest

structure ExportSettings where
  /-- The name of the format that is taken if none is asked for. -/
  format : String := "json"
  directory : String
  isPretty : Bool := true
  deriving DecidableEq, Repr

structure LogSettings where
  level : String := "info"
  toFile : Bool := false
  toConsole : Bool := true
  maxFiles : Nat := 5
  directory : String
  includeTargets : Bool := true
  deriving DecidableEq, Repr

structure Settings where
  loops : LoopCaps := {}
  extraction : ExtractionSettings := {}
  exporting : ExportSettings
  logging : LogSettings
  deriving DecidableEq, Repr

namespace Settings

/-- The settings where nothing is set; results and logs go into a directory for data. -/
def default (dataDirectory : String) : Settings where
  exporting := { directory := dataDirectory ++ "/exports" }
  logging := { directory := dataDirectory ++ "/logs" }

/-- The sections with their entries. -/
def sections (s : Settings) : List (String × Entries Json) :=
  let number (n : Nat) : Json := .int n
  [("engine",
      [("while_max_iterations", number s.loops.whileLoops),
        ("for_max_iterations", number s.loops.countedLoops),
        ("for_each_max_iterations", number s.loops.forEachLoops)]),
    ("extraction",
      [("max_rule_depth", number s.extraction.maxRuleDepth),
        ("default_wait_between_pages_ms", number s.extraction.waitBetweenPages),
        ("default_max_pages", number s.extraction.maxPages),
        ("absolutize_urls", .bool s.extraction.absolutizeUrls)]),
    ("export",
      [("default_format", .str s.exporting.format),
        ("output_directory", .str s.exporting.directory),
        ("pretty_json", .bool s.exporting.isPretty)]),
    ("logging",
      [("level", .str s.logging.level), ("file_enabled", .bool s.logging.toFile),
        ("console_enabled", .bool s.logging.toConsole),
        ("max_files", number s.logging.maxFiles),
        ("log_directory", .str s.logging.directory),
        ("include_targets", .bool s.logging.includeTargets)])]

def toJson (s : Settings) : Json := .obj (s.sections.map fun e => (e.1, .obj e.2))

/-- The fault of a setting that must not be zero. -/
def zeroFault (name : String) : Except Fault Unit :=
  .error (.configuration (name ++ " must be > 0"))

/-- Whether the settings can be worked with. -/
def check (s : Settings) : Except Fault Unit :=
  if s.loops.whileLoops = 0 then zeroFault "engine.while_max_iterations"
  else if s.loops.countedLoops = 0 ∨ s.loops.forEachLoops = 0 then
    zeroFault "engine loop iteration caps"
  else if s.extraction.maxRuleDepth = 0 then zeroFault "extraction.max_rule_depth"
  else if s.extraction.maxPages = 0 then zeroFault "extraction.default_max_pages"
  else .ok ()

end Settings

end PageHarvest
