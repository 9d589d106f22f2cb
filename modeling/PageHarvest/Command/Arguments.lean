import PageHarvest.Command.Switch
import PageHarvest.Text.Search

/-!
# Reading command lines

Arguments are options and words. An option has a letter, a name or both, as in `-c` and `--config`,
and may take a value: the argument after it, or what follows it in the same argument. Letters may
stand together, and after `--` every argument is a word. The first word is the name of a command,
and all arguments after it are read by the options of that command.

- `Arguments.read` sorts the arguments of a command.
- `Invocation.ofArguments` reads a whole command line.
-/

namespace PageHarvest

/-- Arguments sorted by kind: the values of the options by name, and the word. -/
structure Arguments where
  values : List (String × String)
  word : Option String

namespace Arguments

def empty : Arguments := ⟨[], none⟩

def has (a : Arguments) (name : String) : Bool := a.values.any fun v => v.1 == name

def value? (a : Arguments) (name : String) : Option String :=
  (a.values.find? fun v => v.1 == name).map Prod.snd

def valuesOf (a : Arguments) (name : String) : List String :=
  (a.values.filter fun v => v.1 == name).map Prod.snd

/-- Adds the value of an option, if it may have it. -/
def addValue (s : Switch) (v : String) (a : Arguments) : Except Usage Arguments :=
  if (a.has s.name && !s.mayRepeat) || !s.kind.accepts v then .error .mistaken
  else .ok { a with values := a.values ++ [(s.name, v)] }

/-- Adds a word, if the command takes one and has none yet. -/
def addWord (t : Topic) (a : Arguments) (w : String) : Except Usage Arguments :=
  if t.word?.isNone || a.word.isSome || w = "" then .error .mistaken
  else .ok { a with word := some w }

/-! ## One argument -/

/-- The parts of a long option: its name, and what follows an equals sign. -/
def splitLong (cs : List Char) : String × Option String :=
  match Text.splitOnce? '=' cs with
  | some (name, v) => (String.ofList name, some (String.ofList v))
  | none => (String.ofList cs, none)

/-- What an argument does: it changes what was read, or waits for the next one as its value. -/
inductive Step
  | done (a : Arguments)
  | waiting (s : Switch) (a : Arguments)

/-- A long option without its dashes. -/
def readLong (switches : List Switch) (cs : List Char) (a : Arguments) : Except Usage Step :=
  let (name, attached) := splitLong cs
  match switches.find? fun s => s.name == name with
  | none => .error .mistaken
  | some s =>
    match s.kind, attached with
    | .flag, none => (a.addValue s "").map .done
    | .answer u, none => .error u
    | .flag, some _ | .answer _, some _ => .error .mistaken
    | _, none => .ok (.waiting s a)
    | _, some v => (a.addValue s v).map .done

/-- Letters of short options. -/
def readLetters (switches : List Switch) : List Char → Arguments → Except Usage Step
  | [], a => .ok (.done a)
  | c :: cs, a =>
    match switches.find? fun s => s.letter == some c with
    | none => .error .mistaken
    | some s =>
      match s.kind, cs with
      | .answer u, _ => .error u
      | .flag, _ => do readLetters switches cs (← a.addValue s "")
      | _, [] => .ok (.waiting s a)
      | _, '=' :: v => (a.addValue s (String.ofList v)).map .done
      | _, v => (a.addValue s (String.ofList v)).map .done

/-! ## All arguments -/

/-- Whether an argument is an option and not a word. -/
def isOption (arg : String) : Bool :=
  match arg.toList with
  | '-' :: _ :: _ => true
  | _ => false

/-- Reads one argument that is an option. -/
def readOption (switches : List Switch) (arg : String) (a : Arguments) : Except Usage Step :=
  match arg.toList with
  | '-' :: '-' :: cs => readLong switches cs a
  | _ :: cs => readLetters switches cs a
  | [] => .error .mistaken

/-- Sorts the arguments of a command; `waiting` is an option without its value. -/
def read (t : Topic) (waiting : Option Switch) :
    List String → Arguments → Except Usage Arguments
  | [], a => if waiting.isNone then .ok a else .error .mistaken
  | arg :: rest, a =>
    match waiting with
    | some s =>
      if isOption arg then .error .mistaken
      else do read t none rest (← a.addValue s arg)
    | none =>
      if arg = "--" then rest.foldlM (addWord t) a
      else if isOption arg then do
        match ← readOption t.switches arg a with
        | .done a => read t none rest a
        | .waiting s a => read t (some s) rest a
      else do read t none rest (← addWord t a arg)

/-- Sorts the arguments up to the first word. Gives them and the words from there on. -/
def readFront (switches : List Switch) (waiting : Option Switch) :
    List String → Arguments → Except Usage (Arguments × List String)
  | [], a => if waiting.isNone then .ok (a, []) else .error .mistaken
  | arg :: rest, a =>
    match waiting with
    | some s =>
      if isOption arg then .error .mistaken
      else do readFront switches none rest (← a.addValue s arg)
    | none =>
      if arg = "--" then .error .mistaken
      else if isOption arg then do
        match ← readOption switches arg a with
        | .done a => readFront switches none rest a
        | .waiting s a => readFront switches (some s) rest a
      else .ok (a, arg :: rest)

end Arguments

/-! ## Commands -/

namespace Command

def required : Option String → Except Usage String
  | some v => .ok v
  | none => .error .mistaken

/-- The start of an extraction: either a file or a URL to download. -/
def startPage (a : Arguments) : Except Usage StartPage :=
  match a.value? "html", a.value? "fetch" with
  | some path, none => .ok (.file path ((a.value? "url").getD StartPage.defaultUrl))
  | none, some url => .ok (.download url)
  | _, _ => .error .mistaken

def readExtract (args : List String) : Except Usage Command := do
  let a ← Arguments.read .extract none args .empty
  return .extract {
    schema := ← required (a.value? "schema")
    start := ← startPage a
    pages := (a.valuesOf "page").filterMap pageFile?
    format := a.value? "format"
    output := a.value? "output" }

/-- A command with one word. -/
def readWithWord (t : Topic) (command : String → Arguments → Command) (args : List String) :
    Except Usage Command := do
  let a ← Arguments.read t none args .empty
  return command (← required a.word) a

/-- Help on all commands or on one. -/
def readHelp : List String → Except Usage Command
  | [] => .error (.help .program)
  | [name] =>
    match Topic.command? name with
    | some t => .error (.help t)
    | none => .error .mistaken
  | _ => .error .mistaken

/-- A command by its name and its arguments. -/
def ofWords : List String → Except Usage Command
  | [] => .error .mistaken
  | name :: args =>
    match Topic.command? name with
    | some .extract => readExtract args
    | some .validate => readWithWord .validate (fun w _ => .validate w) args
    | some .expand => readWithWord .expand (fun w a => .expand w (a.value? "vars")) args
    | some .eval => readWithWord .eval (fun w a => .eval w (a.value? "vars")) args
    | some .help => readHelp args
    | some .program | none => .error .mistaken

end Command

namespace Invocation

/-- The invocation that the arguments make up. -/
def ofArguments (args : List String) : Except Usage Invocation := do
  let (a, words) ← Arguments.readFront Topic.program.switches none args .empty
  return ⟨a.has "verbose", a.value? "config", ← Command.ofWords words⟩

end Invocation

end PageHarvest
