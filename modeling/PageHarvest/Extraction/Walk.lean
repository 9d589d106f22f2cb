import PageHarvest.Extraction.Read
import PageHarvest.Extraction.Refine

/-!
# Walking over rules

A rule reads from the matches of its locator, from the element that it is scoped to, or from the
page as a whole. When that fails, a fallback locator is tried; when both fail, the first fault
counts. A list rule walks its children for each item. The fault of a child leaves null in its
field and an item error in a record that all walks share, unless the child is optional; then the
item errors below it are taken back, too. Only a nesting that is too deep ends the list.
-/

namespace PageHarvest

/-- Where a rule reads from. -/
inductive Target
  | located (l : Locator)
  | scope (h : Handle)
  | wholePage
  deriving DecidableEq, Repr

/-- The target in messages. -/
def Target.display : Target → String
  | located l => l.display
  | scope _ => "<scope>"
  | wholePage => "<page>"

namespace Rule

/-- The target of a rule: its locator, the one that its kind has anyway, or its scope. -/
def target (r : Rule) (scope : Option Handle) : Except Fault Target :=
  match r.locator?.orElse fun _ => r.kind.defaultSelector?.map .css with
  | some l => .ok (.located l)
  | none =>
    if r.kind = .metadata ∨ r.kind = .screenshot then .ok .wholePage
    else
      match scope with
      | some h => .ok (.scope h)
      | none => .error (.noSelector r.name)

/-- Whether a rule can be located without a scope. -/
def ensureLocatable (r : Rule) : Except Fault Unit := (r.target none).map fun _ => ()

end Rule

/-- A page in some state, and the item errors recorded since they were last taken. -/
structure Recording (σ : Type) where
  page : σ
  itemErrors : List String

/-- An action that may record item errors. -/
abbrev Walk (σ α : Type) := Act (Recording σ) α

namespace Walk

variable {σ α : Type}

/-- An action on the page. -/
def onPage (a : Act σ α) : Walk σ α := fun s =>
  let o := a.runIn s.page
  (o.1, { s with page := o.2 })

def ofExcept : Except Fault α → Walk σ α
  | .ok a => return a
  | .error f => throw f

/-- Records an item error. -/
def record (message : String) : Walk σ Unit :=
  modify fun s => { s with itemErrors := s.itemErrors ++ [message] }

/-- Takes the item errors out of the record. -/
def takeItemErrors : StateM (Recording σ) (List String) :=
  modifyGet fun s => (s.itemErrors, { s with itemErrors := [] })

/-- Runs walks that start with nothing recorded. -/
def recording (m : StateM (Recording σ) α) : StateM σ α := fun page =>
  let o := m.run ⟨page, []⟩
  (o.1, o.2.page)

/-- The value of a field, by what its child came to. A fault leaves null, and an item error unless
the child is optional. -/
def fieldOf (list : String) (i : Nat) (child : Rule) : Except Fault Json → Walk σ Json
  | .ok v => return v
  | .error (.maxDepthExceeded d) => throw (.maxDepthExceeded d)
  | .error f => do
    if !child.optional then
      record (list ++ "[" ++ toString i ++ "]." ++ child.name ++ ": " ++ f.message)
    return .null

/-- A child as a field. Of an optional child no item errors are kept. -/
def asField (list : String) (i : Nat) (child : Rule) (walk : Walk σ Json) : Walk σ Json := do
  let recorded := (← get).itemErrors.length
  let outcome ← ExceptT.lift walk.run
  if child.optional then modify fun s => { s with itemErrors := s.itemErrors.take recorded }
  fieldOf list i child outcome

end Walk

namespace Walker

variable {σ : Type}

/-- The elements of a target. -/
def find (w : Walker σ) (scope : Option Handle) : Target → Act σ (List Handle)
  | .located l => w.page.queryAll scope l
  | .scope h => return [h]
  | .wholePage => return []

def pictureText (bytes : List UInt8) : String := "data:image/png;base64," ++ Text.base64 bytes

/-- What a rule other than a list reads from a target. -/
def readAt (w : Walker σ) (r : Rule) (scope : Option Handle) (t : Target) : Act σ Json :=
  match r.kind with
  | .metadata => return (← w.page.metadata).toJson
  | .screenshot => return .str (pictureText (← w.page.screenshot))
  | .links => do return .arr (← (← w.find scope t).mapM w.readLink)
  | .images => do return .arr (← (← w.find scope t).mapM w.readImage)
  | _ => do
    let elements ← w.find scope t
    if r.multiple then return .arr (← elements.mapM (w.readElement r))
    else
      match elements with
      | h :: _ => w.readElement r h
      | [] => throw (.selectorNotFound t.display)

/-- The texts of items without fields. -/
def readItems (w : Walker σ) (items : List Handle) : Act σ Json :=
  return .arr (← items.mapM fun h => return .str (← w.trimmedText h))

/-- Tries a reading of a rule at its target, then at its fallback. -/
def attempt (w : Walker σ) (r : Rule) (scope : Option Handle) (depth : Nat)
    (reading : Target → Walk σ Json) : Walk σ Json := do
  if w.settings.maxRuleDepth < depth then
    throw (.maxDepthExceeded w.settings.maxRuleDepth)
  else
    let t ← Walk.ofExcept (r.target scope)
    let v ← tryCatch (reading t) fun first =>
      match r.fallback? with
      | some l => tryCatch (reading (.located l)) fun _ => throw first
      | none => throw first
    return r.refine v

mutual

/-- Walks a rule at a depth, inside a scope or on the whole page. -/
def walk (w : Walker σ) : Rule → Option Handle → Nat → Walk σ Json
  | ⟨id, name, kind, selector, xpath, attributeName, regex, transform, multiple, optional,
      fallbackSelector, children⟩, scope, depth =>
    let r : Rule := ⟨id, name, kind, selector, xpath, attributeName, regex, transform, multiple,
      optional, fallbackSelector, children⟩
    w.attempt r scope depth fun t =>
      if kind ≠ .list then Walk.onPage (w.readAt r scope t)
      else do
        let items ← Walk.onPage (w.find scope t)
        if children.isEmpty then Walk.onPage (w.readItems items)
        else
          return .arr (← items.zipIdx.mapM fun h =>
            return .obj (← w.walkFields name children h.2 h.1 (depth + 1) []))

/-- Walks the children of a list for one item, with the fields read so far. -/
def walkFields (w : Walker σ) (list : String) :
    List Rule → Nat → Handle → Nat → Entries Json → Walk σ (Entries Json)
  | [], _, _, _, fields => return fields
  | child :: rest, i, h, depth, fields => do
    let v ← Walk.asField list i child (w.walk child (some h) depth)
    w.walkFields list rest i h depth (fields.insert child.name v)

end

end Walker

end PageHarvest
