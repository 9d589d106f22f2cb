import PageHarvest.Fault
import PageHarvest.Text.Blank
import PageHarvest.Text.Case

/-!
# Formats of source texts

Schemas, conditions and steps are written in JSON or in YAML. For a file its name decides: the
extensions `yaml` and `yml` mean YAML, everything else means JSON.

A path of a file is names with slashes between them. Empty names and single dots do not count.
-/

namespace PageHarvest.Path

/-- The names in a path. -/
def names (path : String) : List String :=
  ((Text.splitChars (· = '/') path.toList).map String.ofList).filter fun n => n != "" && n != "."

/-- The last name, unless it leads upwards. -/
def fileName? (path : String) : Option String :=
  (names path).getLast?.filter (· != "..")

/-- What follows the last dot of the file name; a dot in front is part of the name. -/
def extension? (path : String) : Option String := do
  let cs := (← fileName? path).toList
  let reversed := cs.reverse.takeWhile (· ≠ '.')
  if reversed.length + 1 < cs.length then some (String.ofList reversed.reverse) else none

/-- What stands before the last slash, if there is one. -/
def directory? (path : String) : Option String :=
  let reversed := path.toList.reverse
  let directory := (reversed.dropWhile (· ≠ '/')).drop 1
  if directory.isEmpty then none else some (String.ofList directory.reverse)

end PageHarvest.Path

namespace PageHarvest

inductive SourceFormat
  | json
  | yaml
  deriving DecidableEq, Repr

namespace SourceFormat

def title : SourceFormat → String
  | json => "JSON"
  | yaml => "YAML"

def ofPath (path : String) : SourceFormat :=
  match (Path.extension? path).map Text.toLower with
  | some "yaml" | some "yml" => yaml
  | _ => json

/-- The fault of a text that does not denote what it should. -/
def mismatch (f : SourceFormat) (wanted : String) : Fault :=
  .schemaParsing ("the " ++ f.title ++ " text is not a " ++ wanted)

end SourceFormat

end PageHarvest
