import PageHarvest.Text.Search

/-!
# Commands and their options

What the program can be asked to do on its command line, and how it is asked. A topic is the program
or one of its commands, and has a list of options. A command may take one word besides. The lists
say how arguments are read and what help tells about them.
-/

namespace PageHarvest

/-! ## Commands -/

/-- Where an extraction starts. -/
inductive StartPage
  /-- The document in a file, taken for the one at a URL. -/
  | file (path url : String)
  | download (url : String)

/-- The URL of a document in a file that is given none. -/
def StartPage.defaultUrl : String := "http://localhost/"

structure ExtractionJob where
  /-- The file of the schema. -/
  schema : String
  start : StartPage
  /-- Further documents of the site: URLs and files. -/
  pages : List (String × String)
  format : Option String
  /-- The file for the results; without one they are printed. -/
  output : Option String

inductive Command
  | extract (job : ExtractionJob)
  | validate (schema : String)
  /-- Variables are given as a JSON object. -/
  | expand (step : String) (vars : Option String)
  | eval (condition : String) (vars : Option String)

/-- A command with what is said before it. -/
structure Invocation where
  isVerbose : Bool
  /-- The file of the settings. -/
  settings : Option String
  command : Command

/-- The line that tells the version. -/
def versionLine : String := "wsf-cli 0.1.0"

/-! ## Options -/

/-- What help can be asked about: the program or one of its commands. -/
inductive Topic
  | program
  | extract
  | validate
  | expand
  | eval
  | help
  deriving DecidableEq, Repr

/-- Why arguments are no invocation. -/
inductive Usage
  | help (topic : Topic)
  | version
  | mistaken
  deriving DecidableEq, Repr

/-- The kinds of option. A value has a name in the help. -/
inductive SwitchKind
  /-- No value: the option is there or not. -/
  | flag
  /-- Nothing after this option is read. -/
  | answer (u : Usage)
  | text (value : String)
  /-- A text that is not empty. -/
  | path (value : String)
  /-- A URL and a file with an equals sign between them. -/
  | page (value : String)
  deriving DecidableEq, Repr

/-- The URL and the file of a page; the last equals sign stands between them. -/
def pageFile? (s : String) : Option (String × String) := do
  let (file, url) ← Text.splitOnce? '=' s.toList.reverse
  if file.isEmpty || url.isEmpty then none
  else some (String.ofList url.reverse, String.ofList file.reverse)

/-- Whether a value is one of the kind. -/
def SwitchKind.accepts (v : String) : SwitchKind → Bool
  | .path _ => v != ""
  | .page _ => (pageFile? v).isSome
  | .flag | .answer _ | .text _ => true

structure Switch where
  letter : Option Char
  name : String
  kind : SwitchKind
  about : String
  isRequired : Bool := false
  mayRepeat : Bool := false

/-- The option that asks for help. -/
def Switch.help (t : Topic) : Switch :=
  { letter := some 'h', name := "help", kind := .answer (.help t), about := "Print help" }

namespace Topic

/-- The topics that are commands. -/
def commands : List Topic := [.extract, .validate, .expand, .eval, .help]

def name : Topic → String
  | program => "wsf-cli"
  | extract => "extract"
  | validate => "validate"
  | expand => "expand"
  | eval => "eval"
  | help => "help"

def command? (name : String) : Option Topic := commands.find? fun t => t.name == name

def about : Topic → String
  | program => "WinScrape Flow command line interface"
  | extract => "Run an extraction schema against a saved or downloaded page"
  | validate => "Validate an extraction schema"
  | expand => "Expand a control-flow step into the steps it would run"
  | eval => "Evaluate a condition"
  | help => "Print this message or the help of the given subcommand(s)"

/-- The word that a command takes, and what it is. -/
def word? : Topic → Option (String × String)
  | validate => some ("<SCHEMA>", "Path to schema file")
  | expand => some ("<STEP_FILE>", "Path to step file (JSON or YAML)")
  | eval => some ("<CONDITION_FILE>", "Path to condition file (JSON or YAML)")
  | help => some ("[COMMAND]...", "Print help for the subcommand(s)")
  | program | extract => none

def programSwitches : List Switch :=
  [{ letter := some 'v', name := "verbose", kind := .flag, about := "Enable verbose logging" },
    { letter := some 'c', name := "config", kind := .path "CONFIG"
      about := "Configuration file path" },
    .help .program,
    { letter := some 'V', name := "version", kind := .answer .version, about := "Print version" }]

def extractSwitches : List Switch :=
  [{ letter := some 's', name := "schema", kind := .path "SCHEMA"
     about := "Schema file (JSON or YAML)", isRequired := true },
    { letter := none, name := "html", kind := .path "HTML", about := "HTML file of the start page" },
    { letter := none, name := "url", kind := .text "URL"
      about := "URL of the --html page [default: " ++ StartPage.defaultUrl ++ "]" },
    { letter := none, name := "fetch", kind := .text "FETCH"
      about := "Download the start page from this URL" },
    { letter := none, name := "page", kind := .page "PAGES"
      about := "Further page of the site as URL=FILE", mayRepeat := true },
    { letter := some 'f', name := "format", kind := .text "FORMAT"
      about := "Output format (csv, json, jsonl)" },
    { letter := some 'o', name := "output", kind := .path "OUTPUT"
      about := "Output file path; prints to stdout when absent" },
    .help .extract]

/-- The option for variables, said to be `about`. -/
def variablesSwitch (about : String) : Switch :=
  { letter := none, name := "vars", kind := .text "VARS", about }

def switches : Topic → List Switch
  | program => programSwitches
  | extract => extractSwitches
  | validate => [.help .validate]
  | expand => [variablesSwitch "Initial variables as a JSON object", .help .expand]
  | eval => [variablesSwitch "Variables as a JSON object", .help .eval]
  | help => []

end Topic

end PageHarvest
