import PageHarvest.Data.Format
import PageHarvest.Flow.Step
import PageHarvest.Json.Reader
import PageHarvest.Yaml.Reader

/-!
# Conditions and control steps as texts

A condition is read in the format that its file has. A control step is read as JSON, or else as
YAML. A field of a record given twice is an error; in the values inside, the last one counts.
-/

namespace PageHarvest

namespace SourceFormat

/-- The tree of a text of which every part is read, also what is ignored. -/
def settledTree? : SourceFormat → String → Option Tree
  | json, text => (Json.readRaw? text).map Tree.ofJson
  | yaml, text => (Yaml.Node.ofText? text).bind Yaml.Node.settle?

end SourceFormat

def Condition.read (f : SourceFormat) (text : String) : Except Fault Condition :=
  match (f.settledTree? text).bind ofTree? with
  | some c => .ok c
  | none => .error (f.mismatch "condition")

/-- The control step that a text denotes in either format. -/
def Control.read (text : String) : Except Fault Control :=
  let ofText? (f : SourceFormat) : Option Control := (f.settledTree? text).bind ofTree?
  match (ofText? .json).orElse fun _ => ofText? .yaml with
  | some c => .ok c
  | none => .error (SourceFormat.yaml.mismatch "control step")

end PageHarvest
