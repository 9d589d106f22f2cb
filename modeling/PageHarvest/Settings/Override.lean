import PageHarvest.Decimal.Literal
import PageHarvest.Json.Access
import PageHarvest.Settings.Basic

/-!
# Settings from the environment

Some settings can be overridden by variables of the environment. A number that is none, or that
has no place in 64 bits, overrides nothing.
-/

namespace PageHarvest.Settings

/-- The digits of a number of 64 bits after a plus sign or without a sign. -/
def number? (s : String) : Option Nat :=
  let ds := match s.toList with
    | '+' :: cs => cs
    | cs => cs
  if ds.isEmpty || !ds.all Text.isAsciiDigit then none
  else (some (Decimal.digitsValue ds 0)).filter (· ≤ Json.max64)

/-- The settings with the variables that are there. -/
def override (find? : String → Option String) (s : Settings) : Settings :=
  let text (name : String) (default : String) : String := (find? name).getD default
  let number (name : String) (default : Nat) : Nat :=
    ((find? name).bind number?).getD default
  { s with
    loops := { s.loops with
      whileLoops := number "WSF_WHILE_MAX_ITERATIONS" s.loops.whileLoops }
    extraction := { s.extraction with
      maxRuleDepth := number "WSF_MAX_RULE_DEPTH" s.extraction.maxRuleDepth
      waitBetweenPages := number "WSF_WAIT_BETWEEN_PAGES_MS" s.extraction.waitBetweenPages }
    exporting := { s.exporting with
      directory := text "WSF_OUTPUT_DIR" s.exporting.directory }
    logging := { s.logging with level := text "WSF_LOG_LEVEL" s.logging.level } }

end PageHarvest.Settings
