import PageHarvest.Command.Arguments
import PageHarvest.Command.Help
import PageHarvest.Export.Format
import PageHarvest.Extraction.Paging
import PageHarvest.Flow.Source
import PageHarvest.Page.Site
import PageHarvest.Schema.Check
import PageHarvest.Schema.Source
import PageHarvest.Settings.Override
import PageHarvest.Settings.Source

/-!
# Running commands

A command asks its host for files and for the time, and that is all it does to the world. It ends
with what it prints, with the warnings it gave on the way, or with an error.
-/

namespace PageHarvest

/-- What a command needs from outside. -/
structure Host (m : Type → Type) where
  /-- The text of a file, if it can be read. -/
  read : String → m (Option String)
  /-- Writes a file and the directories that it is in; whether that worked. -/
  write : String → String → m Bool
  /-- The document at a URL. -/
  download : String → m (Option String)
  now : m Instant

/-- What is known about the world before a command runs. -/
structure Surroundings where
  /-- The variables of the environment. -/
  lookup : String → Option String
  /-- The file with the settings, unless another one is asked for. -/
  settingsPath : String
  /-- The directory for data, unless the settings name others. -/
  dataDirectory : String

namespace Surroundings

/-- A place named by a variable, if that is a path from the root, or else below the home. -/
def place (lookup : String → Option String) (name below : String) : String :=
  match (lookup name).filter (Text.startsWith · "/") with
  | some path => path
  | none =>
    match lookup "HOME" with
    | some home => home ++ "/" ++ below
    | none => below

/-- The places that the variables of the environment tell. -/
def ofLookup (lookup : String → Option String) : Surroundings where
  lookup := lookup
  settingsPath := place lookup "XDG_CONFIG_HOME" ".config" ++ "/flow/config.toml"
  dataDirectory := place lookup "XDG_DATA_HOME" ".local/share" ++ "/flow"

end Surroundings

/-- How a run ended. -/
structure Ending where
  status : Nat
  output : String
  /-- The lines of warnings and of the error. -/
  notices : List String

namespace Ending

/-- The end of a run whose arguments are no invocation. -/
def ofUsage : Usage → Ending
  | .help t => ⟨0, t.helpText, []⟩
  | .version => ⟨0, versionLine ++ "\n", []⟩
  | .mistaken => ⟨2, "", []⟩

end Ending

/-- Why a command failed. -/
inductive Failure
  | fault (f : Fault)
  /-- A file that cannot be read. -/
  | unreadable (path : String)
  | badVariables
  | download (url : String)

namespace Failure

def message : Failure → String
  | fault f => f.message
  | unreadable path => "Failed to read " ++ path
  | badVariables => "--vars must be a JSON object"
  | download url => "Failed to download " ++ url

/-- The status of a failed run. A fault that nothing can be relied on after has its own. -/
def status : Failure → Nat
  | fault (.brokenXPath _) => 101
  | _ => 1

def notices : Failure → List String
  | fault (.brokenXPath _) => []
  | f => ["Error: " ++ f.message]

end Failure

/-- A command as it runs: it may fail, and gives warnings. -/
abbrev Job (m : Type → Type) (α : Type) := ExceptT Failure (StateT (List String) m) α

namespace Job

variable {m : Type → Type} [Monad m] {α : Type}

def ask (a : m α) : Job m α := ExceptT.lift (StateT.lift a)

def ofExcept : Except Fault α → Job m α
  | .ok a => return a
  | .error f => throw (.fault f)

def warn (line : String) : Job m Unit := modify fun ls => ls ++ ["warning: " ++ line]

/-- Runs a job that gives what it prints. -/
def ending (j : Job m String) : m Ending := do
  let (r, warnings) ← j.run.run []
  return match r with
    | .ok output => ⟨0, output, warnings⟩
    | .error f => ⟨f.status, "", warnings ++ f.notices⟩

end Job

namespace Command

/-- What warnings say about a selector or a pattern. -/
def reason : String := "it cannot be read"

variable {m : Type → Type} [Monad m]

/-- A file whose absence is a failure of its own. -/
def readText (h : Host m) (path : String) : Job m String := do
  match ← Job.ask (h.read path) with
  | some text => return text
  | none => throw (.unreadable path)

/-- A file with a schema or a condition. -/
def readSource (h : Host m) (path : String) : Job m String := do
  match ← Job.ask (h.read path) with
  | some text => return text
  | none => throw (.fault (.fileSystem (path ++ ": the file cannot be read")))

def readSchema (h : Host m) (path : String) : Job m Schema := do
  Job.ofExcept (Schema.read (.ofPath path) (← readSource h path))

/-- The context of variables given as a JSON object. -/
def contextOf (vars : Option String) : Job m Context :=
  match vars with
  | none => return Context.empty
  | some text =>
    match Json.read? text with
    | some (.obj entries) => return { Context.empty with vars := entries }
    | _ => throw .badVariables

/-! ## Extracting -/

/-- The URL and the document of the start page. -/
def startDocument (h : Host m) : StartPage → Job m (String × String)
  | .file path url => return (url, ← readText h path)
  | .download url => do
    match ← Job.ask (h.download url) with
    | some text => return (url, text)
    | none => throw (.download url)

def readPages (h : Host m) (pages : List (String × String)) : Job m (List (String × String)) :=
  pages.mapM fun p => return (p.1, ← readText h p.2)

/-- The results of a schema on a site. -/
def harvest (settings : ExtractionSettings) (site : Site) (now : Instant) (schema : Schema) :
    Except Fault (List Result) :=
  let advance := Site.page.clickNext settings.waitBetweenPages
  ((schema.extractPages settings Site.page advance now settings.maxPages).run site).1

/-- Writes the results to the file that is asked for, or gives them to be printed. -/
def deliver (h : Host m) (format : ExportFormat) (output : Option String) (count : Nat)
    (text : String) : Job m String := do
  match output with
  | none => return text
  | some path =>
    if ← Job.ask (h.write path text) then
      let r := ExportReport.ofText format path count text
      return "Extracted " ++ toString r.records ++ " page(s); " ++ r.format.name ++
        " written to " ++ r.path ++ " (" ++ toString r.bytes ++ " bytes)\n"
    else throw (.fault (.fileSystem (path ++ ": the file cannot be written")))

def runExtract (h : Host m) (s : Settings) (job : ExtractionJob) : Job m String := do
  let schema ← readSchema h job.schema
  for w in ← Job.ofExcept (schema.check s.extraction.maxRuleDepth) do
    Job.warn (w.message reason)
  let start ← startDocument h job.start
  let pages ← readPages h job.pages
  let site ← Job.ofExcept (Site.start start.1 (start :: pages))
  let now ← Job.ask h.now
  let results ← Job.ofExcept (harvest s.extraction site now schema)
  let format ← Job.ofExcept (ExportFormat.ofName (job.format.getD s.exporting.format))
  deliver h format job.output results.length (Result.render results s.exporting.isPretty format)

/-! ## Other commands -/

def runValidate (h : Host m) (s : Settings) (path : String) : Job m String := do
  let schema ← readSchema h path
  let warnings ← Job.ofExcept (schema.check s.extraction.maxRuleDepth)
  let lines := warnings.map fun w => "  warning: " ++ w.message reason ++ "\n"
  return "Schema '" ++ schema.id ++ "' is valid (" ++ toString schema.rules.length ++
    " rules)\n" ++ String.join lines

def runExpand (h : Host m) (s : Settings) (path : String) (vars : Option String) :
    Job m String := do
  let text ← readText h path
  let step ← Job.ofExcept (Control.read text)
  let (e, context) := step.expand s.loops (← contextOf vars)
  let report : Json := .obj (("kind", .str step.kind) :: e.toJson ++
    [("variables", .obj context.vars)])
  return report.pretty ++ "\n"

def runEval (h : Host m) (path : String) (vars : Option String) : Job m String := do
  let text ← readSource h path
  let condition ← Job.ofExcept (Condition.read (.ofPath path) text)
  let context ← contextOf vars
  return toString (condition.evaluate context) ++ "\n"

def run (h : Host m) (s : Settings) : Command → Job m String
  | extract job => runExtract h s job
  | validate schema => runValidate h s schema
  | expand step vars => runExpand h s step vars
  | eval condition vars => runEval h condition vars

end Command

namespace Invocation

variable {m : Type → Type} [Monad m]

/-- The settings of a run: from the file, overridden by the environment, then checked. -/
def settingsIn (h : Host m) (around : Surroundings) (i : Invocation) : Job m Settings := do
  let d := Settings.default around.dataDirectory
  let loaded ← match i.settings with
    | some path => Job.ofExcept (d.load path (← Job.ask (h.read path)))
    | none =>
      match ← Job.ask (h.read around.settingsPath) with
      | some text => Job.ofExcept (d.read around.settingsPath text)
      | none => pure d
  let s := loaded.override around.lookup
  let s := if i.isVerbose then { s with logging := { s.logging with level := "debug" } } else s
  Job.ofExcept s.check
  return s

def run (h : Host m) (around : Surroundings) (i : Invocation) : m Ending :=
  Job.ending do i.command.run h (← i.settingsIn h around)

/-- Runs what the arguments ask for. -/
def runArguments (h : Host m) (around : Surroundings) (args : List String) : m Ending :=
  match ofArguments args with
  | .ok i => i.run h around
  | .error u => return Ending.ofUsage u

end Invocation

end PageHarvest
