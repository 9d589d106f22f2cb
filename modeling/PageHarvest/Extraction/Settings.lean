/-!
# Settings of an extraction
-/

namespace PageHarvest

structure ExtractionSettings where
  /-- How deep rules may be nested. -/
  maxRuleDepth : Nat := 16
  /-- Milliseconds to wait on a new page, where the schema does not say. -/
  waitBetweenPages : Nat := 2000
  /-- The number of pages, where the schema does not say. -/
  maxPages : Nat := 1
  /-- Whether links are made absolute. -/
  absolutizeUrls : Bool := true
  deriving DecidableEq, Repr

end PageHarvest
