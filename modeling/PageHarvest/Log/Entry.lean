import PageHarvest.Json.Access

/-!
# Log entries

What a log says about an operation besides its message.
-/

namespace PageHarvest

structure LogEntry where
  component : String
  operation : String
  schemaId : Option String := none
  url : Option String := none
  milliseconds : Option Nat := none
  status : Option String := none
  fields : Entries Json := []

namespace LogEntry

/-- Sets the time that the operation took, in whole milliseconds. -/
def withMicroseconds (e : LogEntry) (n : Nat) : LogEntry :=
  { e with milliseconds := some (n / 1000 % Nat.pow 2 64) }

/-- Sets a further field. -/
def withField (e : LogEntry) (name : String) (value : Json) : LogEntry :=
  { e with fields := e.fields.insert name value }

def toJson (e : LogEntry) : Json :=
  let text := Json.ofOption Json.str
  .obj [("component", .str e.component), ("operation", .str e.operation),
    ("schema_id", text e.schemaId), ("url", text e.url),
    ("duration_ms", Json.ofOption (fun n : Nat => .int n) e.milliseconds),
    ("status", text e.status), ("additional_fields", .obj e.fields)]

end LogEntry

end PageHarvest
