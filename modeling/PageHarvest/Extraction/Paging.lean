import PageHarvest.Extraction.Engine

/-!
# From page to page

After each page an advancer moves on to the next one. The run ends at the limit, where there is no
next page, and where moving on fails; what was extracted until then counts.
-/

namespace PageHarvest

variable {σ : Type}

/-- Moves a page on; whether there was a page to move on to. -/
abbrev Advancer (σ : Type) := Pagination → Act σ Bool

/-- Whether an element is marked as out of use. -/
def Page.isDisabled (p : Page σ) (h : Handle) : Act σ Bool := do
  if (← p.attributeOf h "disabled").isSome then return true
  if (← p.attributeOf h "aria-disabled") = some "true" then return true
  return (Text.words ((← p.attributeOf h "class").getD "")).contains "disabled"

/-- Clicks the first match of the selector for the next page and waits. -/
def Page.clickNext (p : Page σ) (defaultWait : Nat) : Advancer σ := fun policy => do
  match Rule.nonBlank? policy.nextSelector with
  | none => return false
  | some selector =>
    match ← p.query none (.css selector) with
    | none => return false
    | some next =>
      if ← p.isDisabled next then return false
      else
        p.click next
        p.waitForIdle
        let wait := policy.waitBetweenPages.getD defaultWait
        if wait ≠ 0 then p.wait wait
        return true

namespace Schema

def policy (s : Schema) : Pagination := s.pagination.getD {}

/-- The number of pages at most. -/
def pageLimit (s : Schema) (defaultLimit : Nat) : Nat := max 1 (s.policy.maxPages.getD defaultLimit)

/-- Extracts from the pages after page `k`, as many as are left. -/
def extractFurther (settings : ExtractionSettings) (p : Page σ) (advance : Advancer σ)
    (now : Instant) (s : Schema) : Nat → Nat → Act σ (List Result)
  | 0, _ => return []
  | left + 1, k => do
    match ← ExceptT.lift (advance s.policy).run with
    | .ok true =>
      let r ← s.extract settings p now (k + 1)
      return r :: (← extractFurther settings p advance now s left (k + 1))
    | .ok false | .error _ => return []

/-- Extracts from page after page. -/
def extractPages (settings : ExtractionSettings) (p : Page σ) (advance : Advancer σ)
    (now : Instant) (s : Schema) (defaultLimit : Nat) : Act σ (List Result) := do
  let first ← s.extract settings p now 1
  if (Rule.nonBlank? s.policy.nextSelector).isNone then return [first]
  else
    return first ::
      (← extractFurther settings p advance now s (s.pageLimit defaultLimit - 1) 1)

end Schema

/-- The results of the last run over pages. -/
structure Session where
  results : List Result

namespace Session

def empty : Session := ⟨[]⟩

/-- A run over pages, whose results replace those held; a run that fails leaves none. -/
def extract (settings : ExtractionSettings) (p : Page σ) (advance : Advancer σ) (now : Instant)
    (s : Schema) : StateM σ (Except Fault (List Result) × Session) := do
  match ← (s.extractPages settings p advance now settings.maxPages).run with
  | .ok results => return (.ok results, ⟨results⟩)
  | .error f => return (.error f, empty)

end Session

end PageHarvest
