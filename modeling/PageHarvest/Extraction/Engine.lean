import PageHarvest.Extraction.Result
import PageHarvest.Extraction.Walk
import PageHarvest.Schema.Basic

/-!
# Extraction from one page

The rules of a schema are walked one after the other. A fault of a rule leaves null in its field
and an error in the result, unless the rule is optional. Only a rule that cannot be located at all
ends the extraction, before anything is read.
-/

namespace PageHarvest

variable {σ : Type}

/-- A walker for a page as it is; without a URL, links stay as they are. -/
def Page.walker (p : Page σ) (settings : ExtractionSettings) : StateM σ (Walker σ) := do
  let base := match ← p.url.run with
    | .ok url => (Url.read url).toOption
    | .error _ => none
  return ⟨p, base, settings⟩

/-- What one rule extracts from the whole page. Errors of items are not reported. -/
def Rule.extract (settings : ExtractionSettings) (p : Page σ) (r : Rule) : Act σ Json := do
  match r.ensureLocatable with
  | .error f => throw f
  | .ok () =>
    let w ← ExceptT.lift (p.walker settings)
    ExceptT.mk (Walk.recording (w.walk r none 1).run)

/-- Data and errors so far. -/
structure Collected where
  data : Entries Json
  errors : List String

namespace Collected

def empty : Collected := ⟨[], []⟩

/-- Adds what the walk over a rule came to, and the item errors that it recorded. -/
def add (c : Collected) (r : Rule) (outcome : Except Fault Json) (itemErrors : List String) :
    Collected :=
  let value := match outcome with
    | .ok v => v
    | .error _ => .null
  let own := match outcome with
    | .ok _ => []
    | .error f => [r.name ++ ": " ++ f.message]
  ⟨c.data.insert r.name value, if r.optional then c.errors else c.errors ++ own ++ itemErrors⟩

end Collected

/-- Walks rules one after the other. The record is emptied after each of them. -/
def Walker.collect (w : Walker σ) : List Rule → Collected → StateM (Recording σ) Collected
  | [], c => return c
  | r :: rest, c => do
    let outcome ← (w.walk r none 1).run
    let itemErrors ← Walk.takeItemErrors
    w.collect rest (c.add r outcome itemErrors)

/-- The first rule that cannot be located is a fault. -/
def Schema.ensureLocatable (s : Schema) : Except Fault Unit := s.rules.forM Rule.ensureLocatable

/-- What a schema extracts from a page. -/
def Schema.extract (settings : ExtractionSettings) (p : Page σ) (now : Instant) (s : Schema)
    (pageNumber : Nat) : Act σ Result :=
  match s.ensureLocatable with
  | .error f => throw f
  | .ok () => do
    let url ← ExceptT.lift p.url.run
    let w ← ExceptT.lift (p.walker settings)
    let c ← ExceptT.lift (Walk.recording (w.collect s.rules .empty))
    return {
      schemaId := s.id
      url := url.toOption.getD ""
      timestamp := now
      data := c.data
      errors := c.errors
      pageNumber }

end PageHarvest
