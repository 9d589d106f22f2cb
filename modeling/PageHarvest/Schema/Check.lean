import PageHarvest.Css.Reader
import PageHarvest.Fault
import PageHarvest.Regex.Match
import PageHarvest.Schema.Basic
import PageHarvest.Text.Letter
import PageHarvest.XPath.Reader

/-!
# Checking schemas

A check ends with a fault or with warnings. Faults: an id or a name of blanks alone, a rule on top
that cannot be located, rules nested too deep, no pages at all. Warnings stand in the order in
which a walk over the rules meets their causes; of two rules of a name under one parent the second
one is reported.
-/

namespace PageHarvest

/-- A weakness of a schema that can still be used. -/
inductive Warning
  | noRules (schema : String)
  | duplicateName (name scope : String)
  | unusualName (name : String)
  | xpath (rule : String) (fault : Fault)
  | selector (rule text : String)
  | regex (rule : String)
  | noAttribute (rule : String)
  | ignoredChildren (rule : String) (kind : RuleKind)
  | noNextSelector
  | manyPages (n : Nat)
  | longWait (milliseconds : Nat)

namespace Warning

/-- The message. A `reason` explains what is wrong with a selector or with a pattern. -/
def message (reason : String) : Warning → String
  | noRules schema => "Schema '" ++ schema ++ "' defines no rules"
  | duplicateName name scope =>
    "Duplicate rule name '" ++ name ++ "' in " ++ scope ++ "; the last value wins"
  | unusualName name => "Rule name '" ++ name ++ "' contains unusual characters"
  | xpath rule fault => "Rule '" ++ rule ++ "': " ++ fault.message
  | selector rule text =>
    "Rule '" ++ rule ++ "' has an invalid selector '" ++ text ++ "': " ++ reason
  | regex rule => "Rule '" ++ rule ++ "' has a regex that does not compile: " ++ reason
  | noAttribute rule => "Rule '" ++ rule ++ "' is of type attribute but names no attribute"
  | ignoredChildren rule kind =>
    "Rule '" ++ rule ++ "' has children but type " ++ kind.title ++ " ignores them"
  | noNextSelector => "Pagination allows several pages but has no next selector"
  | manyPages n => "Very high max_pages value: " ++ toString n
  | longWait milliseconds => "Very long wait between pages: " ++ toString milliseconds ++ "ms"

end Warning

/-- Whether a name has letters, digits, `_` and `-` only, and starts with a letter or `_`. -/
def isUsualName (name : String) : Bool :=
  let isStart (c : Char) : Bool := Text.isAsciiLetter c || c == '_'
  match name.toList with
  | c :: rest => isStart c && rest.all fun c => isStart c || Text.isAsciiDigit c || c == '-'
  | [] => false

namespace Rule

/-- The warnings on names that an earlier rule of the list has. -/
def duplicates (scope : String) : List String → List Rule → List Warning
  | _, [] => []
  | seen, r :: rest =>
    (if seen.contains r.name then [.duplicateName r.name scope] else []) ++
      duplicates scope (r.name :: seen) rest

/-- The check of a locator: a rule on top has to have one unless its kind reads the whole page. -/
def checkLocator (isChild : Bool) (r : Rule) : Except Fault (List Warning) :=
  match r.locator? with
  | some (.xpath path) =>
    match XPath.toCss path with
    | .ok _ => .ok []
    | .error (.brokenXPath p) => .error (.brokenXPath p)
    | .error f => .ok [.xpath r.name f]
  | some (.css selector) =>
    .ok (if (Css.Selector.read? selector).isSome then [] else [.selector r.name selector])
  | none => if isChild || r.kind.isPageLevel then .ok [] else .error (.noSelector r.name)

def checkRegex (r : Rule) : List Warning :=
  match r.regex with
  | some pattern => if (Regex.ofPattern? pattern).isSome then [] else [.regex r.name]
  | none => []

def checkAttribute (r : Rule) : List Warning :=
  if r.kind = .attribute ∧ (r.attributeName.getD "") = "" then [.noAttribute r.name] else []

/-- The check of a rule by itself. -/
def checkOwn (isChild : Bool) (r : Rule) : Except Fault (List Warning) := do
  if Text.isBlankText r.name then throw (.schemaValidation "Rule name cannot be empty")
  let located ← r.checkLocator isChild
  return (if isUsualName r.name then [] else [.unusualName r.name]) ++ located ++ r.checkRegex ++
    r.checkAttribute

/-- The warnings on the children of a rule taken together. -/
def checkSiblings (r : Rule) : List Warning :=
  if r.children.isEmpty then []
  else
    (if r.kind = .list then [] else [.ignoredChildren r.name r.kind]) ++
      duplicates r.name [] r.children

mutual

/-- The check of a rule at a depth, its children included. -/
def check (maxDepth : Nat) (depth : Nat) (isChild : Bool) : Rule → Except Fault (List Warning)
  | ⟨id, name, kind, selector, xpath, attributeName, regex, transform, multiple, optional,
      fallbackSelector, children⟩ => do
    let r : Rule := ⟨id, name, kind, selector, xpath, attributeName, regex, transform, multiple,
      optional, fallbackSelector, children⟩
    if maxDepth < depth then throw (.maxDepthExceeded maxDepth)
    let own ← r.checkOwn isChild
    return own ++ r.checkSiblings ++ (← checkAll maxDepth (depth + 1) true children)

/-- The checks of rules under one parent. -/
def checkAll (maxDepth : Nat) (depth : Nat) (isChild : Bool) :
    List Rule → Except Fault (List Warning)
  | [] => .ok []
  | r :: rest => do
    let first ← check maxDepth depth isChild r
    return first ++ (← checkAll maxDepth depth isChild rest)

end

end Rule

namespace Pagination

def check (p : Pagination) : Except Fault (List Warning) := do
  if p.maxPages = some 0 then throw (.schemaValidation "Max pages must be greater than 0")
  let pages := p.maxPages.getD 1
  let wait := p.waitBetweenPages.getD 0
  return (if 1 < pages ∧ (p.nextSelector.getD "") = "" then [.noNextSelector] else []) ++
    (if 1000 < pages then [.manyPages pages] else []) ++
    (if 60000 < wait then [.longWait wait] else [])

end Pagination

namespace Schema

/-- The check of a schema whose rules may be nested to the given depth. -/
def check (maxDepth : Nat) (s : Schema) : Except Fault (List Warning) := do
  if Text.isBlankText s.id then throw (.schemaValidation "Schema id cannot be empty")
  let rules ← Rule.checkAll maxDepth 1 false s.rules
  let paging ← match s.pagination with
    | some p => p.check
    | none => .ok []
  return (if s.rules.isEmpty then [.noRules s.id] else []) ++
    Rule.duplicates "schema" [] s.rules ++ rules ++ paging

end Schema

end PageHarvest
