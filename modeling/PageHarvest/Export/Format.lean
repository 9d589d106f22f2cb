import PageHarvest.Extraction.Result
import PageHarvest.Fault
import PageHarvest.Json.Printer
import PageHarvest.Text.Case

/-!
# Writing results

Results are written as comma-separated values, as JSON, or as JSON line by line. The columns of a
table are the fields of the first result; a field of another kind than text is written as JSON.

In comma-separated values a record is a line of fields with commas between them. A field with a
comma, a quote or a line end in it stands in quotes, and a quote inside is written twice. A line
that would be empty is written as one field in quotes.
-/

namespace PageHarvest

/-! ## Comma-separated values -/

namespace Csv

/-- Whether a field has to stand in quotes. -/
def needsQuotes (cs : List Char) : Bool :=
  cs.any fun c => c = ',' || c = '"' || c = '\n' || c = '\r'

def doubleQuotes (cs : List Char) : List Char := cs.flatMap fun c => if c = '"' then [c, c] else [c]

def field (cs : List Char) : List Char :=
  if needsQuotes cs then '"' :: doubleQuotes cs ++ ['"'] else cs

def joinFields : List (List Char) → List Char
  | [] => []
  | [cs] => field cs
  | cs :: rest => field cs ++ ',' :: joinFields rest

/-- A record as a line. -/
def line (fields : List String) : List Char :=
  let cs := joinFields (fields.map String.toList)
  (if cs.isEmpty then ['"', '"'] else cs) ++ ['\n']

/-- Records as lines. -/
def render (records : List (List String)) : String := String.ofList (records.flatMap line)

end Csv

/-! ## Formats -/

inductive ExportFormat
  | csv
  | json
  | jsonLines
  deriving DecidableEq, Repr

namespace ExportFormat

def name : ExportFormat → String
  | csv => "csv"
  | json => "json"
  | jsonLines => "jsonl"

/-- The format of a name in any case. -/
def ofName (s : String) : Except Fault ExportFormat :=
  match Text.toLower s with
  | "csv" => .ok csv
  | "json" => .ok json
  | "jsonl" | "ndjson" => .ok jsonLines
  | _ => .error (.unsupportedFormat s)

end ExportFormat

namespace Result

/-- The text of a field in a table. -/
def cell : Option Json → String
  | none | some .null => ""
  | some (.str s) => s
  | some v => v.compact

/-- The table of results, its first record the names of the columns. -/
def table : List Result → List (List String)
  | [] => []
  | first :: rest =>
    let columns := Entries.keys first.data
    columns :: (first :: rest).map fun r => columns.map fun c => cell (r.data.get? c)

def toCsv (results : List Result) : String := Csv.render (table results)

def listToJson (results : List Result) : Json := .arr (results.map toJson)

/-- One line for each result. -/
def toJsonLines (results : List Result) : String :=
  String.join (results.map fun r => r.toJson.compact ++ "\n")

/-- Results in a format; JSON over several lines or in one. -/
def render (results : List Result) (isPretty : Bool) : ExportFormat → String
  | .csv => toCsv results
  | .json => if isPretty then (listToJson results).pretty else (listToJson results).compact
  | .jsonLines => toJsonLines results

end Result

/-- What is reported of an export. -/
structure ExportReport where
  format : ExportFormat
  path : String
  records : Nat
  bytes : Nat

namespace ExportReport

/-- The report of a text that was written to a path. -/
def ofText (format : ExportFormat) (path : String) (records : Nat) (text : String) :
    ExportReport :=
  ⟨format, path, records, text.utf8ByteSize⟩

/-- The written form, with the milliseconds that the export took. -/
def toJson (r : ExportReport) (milliseconds : Nat) : Json :=
  .obj [("format", .str r.format.name), ("file_path", .str r.path),
    ("record_count", .int r.records), ("file_size_bytes", .int r.bytes),
    ("export_duration_ms", .int milliseconds)]

end ExportReport

end PageHarvest
