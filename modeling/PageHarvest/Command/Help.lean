import PageHarvest.Command.Switch

/-!
# Help

Help on a topic tells what it does, how it is written on a command line, and in columns what its
commands, its word and its options are.
-/

namespace PageHarvest

/-- Rows of two columns, as lines. -/
def Topic.table (rows : List (String × String)) : String :=
  let width := rows.foldl (fun n r => max n r.1.length) 0
  String.join (rows.map fun r => "  " ++ r.1.pushn ' ' (width + 2 - r.1.length) ++ r.2 ++ "\n")

namespace Switch

/-- An option by its name, with its value. -/
def spelled (s : Switch) : String :=
  match s.kind with
  | .flag | .answer _ => "--" ++ s.name
  | .text v | .path v | .page v => "--" ++ s.name ++ " <" ++ v ++ ">"

/-- An option by its letter and its name; the names of all options are in one column. -/
def entry (s : Switch) : String :=
  match s.letter with
  | some c => "-" ++ c.toString ++ ", " ++ s.spelled
  | none => "    " ++ s.spelled

/-- Whether an option is one of a command and not a question. -/
def isSetting (s : Switch) : Bool :=
  match s.kind with
  | .answer _ => false
  | .flag | .text _ | .path _ | .page _ => true

end Switch

namespace Topic

/-- How the arguments of a topic are written. -/
def usageLine (t : Topic) : String :=
  let command := if t = program then [] else [t.name]
  let options := if t.switches.any (·.isSetting) then ["[OPTIONS]"] else []
  let required := (t.switches.filter (·.isRequired)).map (·.spelled)
  let words := if t = program then ["<COMMAND>"] else (t.word?.map Prod.fst).toList
  " ".intercalate ("Usage:" :: program.name :: (command ++ options ++ required ++ words))

/-- A part of the help under a heading, unless there is nothing in it. -/
def part (heading : String) (rows : List (String × String)) : String :=
  if rows.isEmpty then "" else "\n" ++ heading ++ ":\n" ++ table rows

def helpText (t : Topic) : String :=
  t.about ++ "\n\n" ++ t.usageLine ++ "\n" ++
    (if t = program then part "Commands" (commands.map fun c => (c.name, c.about)) else "") ++
    part "Arguments" t.word?.toList ++
    part "Options" (t.switches.map fun s => (s.entry, s.about))

end Topic

end PageHarvest
