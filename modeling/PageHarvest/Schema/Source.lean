import PageHarvest.Data.Format
import PageHarvest.Json.Reader
import PageHarvest.Schema.Decode
import PageHarvest.Yaml.Printer
import PageHarvest.Yaml.Reader

/-!
# Schemas as texts

A schema is read from JSON or YAML and written in both. What is absent is not written.
-/

namespace PageHarvest.Schema

/-- The tree of a text. -/
def treeOf? : SourceFormat → String → Option Tree
  | .json, text => Json.readTree? text
  | .yaml, text => (Yaml.Node.ofText? text).map Yaml.Node.toTree

/-- The schema that a text denotes. -/
def read (f : SourceFormat) (text : String) : Except Fault Schema :=
  match (treeOf? f text).bind ofTree? with
  | some s => .ok s
  | none => .error (f.mismatch "schema")

/-- The schema as a text. -/
def write (s : Schema) : SourceFormat → String
  | .json => s.toJson.pretty
  | .yaml =>
    match s.toJson with
    | .obj entries => Yaml.write entries
    | j => j.compact

/-- Whether a schema is the same after it was written and read again. -/
def survives (f : SourceFormat) (s : Schema) : Bool :=
  match read f (s.write f) with
  | .ok t => s.toJson.same t.toJson
  | .error _ => false

end PageHarvest.Schema
