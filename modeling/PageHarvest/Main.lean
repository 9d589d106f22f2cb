import Std.Time.DateTime.Timestamp
import PageHarvest.Command.Run

/-!
# The program

Files, time and environment for the commands, and the printing of what they give. Documents are not
downloaded.
-/

open PageHarvest

namespace PageHarvest.Host

/-- The text of a file, if it can be read. -/
def readText (path : String) : IO (Option String) := do
  try
    return some (← IO.FS.readFile path)
  catch _ => return none

/-- Writes a file and the directories that it is in. -/
def writeText (path text : String) : IO Bool := do
  try
    if let some directory := Path.directory? path then IO.FS.createDirAll directory
    IO.FS.writeFile path text
    return true
  catch _ => return false

/-- The time now. -/
def currentInstant : IO Instant := do
  let d := (← Std.Time.Timestamp.now).val
  return ⟨d.second.val, d.nano.val.toNat⟩

def system : Host IO where
  read := readText
  write := writeText
  download _ := return none
  now := currentInstant

/-- The variables of the environment that are looked at. -/
def environment : IO (String → Option String) := do
  let names := ["HOME", "XDG_CONFIG_HOME", "XDG_DATA_HOME", "WSF_LOG_LEVEL", "WSF_MAX_RULE_DEPTH",
    "WSF_WHILE_MAX_ITERATIONS", "WSF_WAIT_BETWEEN_PAGES_MS", "WSF_OUTPUT_DIR"]
  let values ← names.mapM fun n => return (n, ← IO.getEnv n)
  return fun name => (values.find? fun v => v.1 == name).bind Prod.snd

end PageHarvest.Host

def main (args : List String) : IO UInt32 := do
  let around := Surroundings.ofLookup (← Host.environment)
  let e ← Invocation.runArguments Host.system around args
  for line in e.notices do
    IO.eprintln line
  IO.print e.output
  return e.status.toUInt32
