/-!
# Faults

What can go wrong, by cause. `message` is the text that reports show, `category` groups the causes
by the part of the program they come from, and `isRecoverable` tells the faults that end one rule
or one page from those that end a run.
-/

namespace PageHarvest

inductive Fault
  | configuration (detail : String)
  | unreadableConfiguration (path : String)
  | schemaParsing (detail : String)
  | schemaValidation (detail : String)
  /-- A rule without a selector where one is needed. -/
  | noSelector (rule : String)
  /-- A selector without a match where one is needed. -/
  | selectorNotFound (selector : String)
  | invalidSelector (selector reason : String)
  | unsupportedXPath (xpath : String)
  | page (detail : String)
  | navigation (detail : String)
  /-- An operation that the page does not offer. -/
  | unsupported (operation : String)
  | extraction (detail : String)
  | maxDepthExceeded (depth : Nat)
  | expression (detail : String)
  | exporting (detail : String)
  | unsupportedFormat (format : String)
  | fileSystem (path : String)
  | internal (detail : String)
  /-- An XPath that is cut inside a character; nothing that follows can be relied on. -/
  | brokenXPath (xpath : String)
  deriving Repr, DecidableEq, Inhabited

namespace Fault

def message : Fault → String
  | configuration detail => "Configuration error: " ++ detail
  | unreadableConfiguration path => "Invalid configuration file: " ++ path
  | schemaParsing detail => "Schema parsing error: " ++ detail
  | schemaValidation detail => "Schema validation error: " ++ detail
  | noSelector rule => "No selector configured for rule '" ++ rule ++ "'"
  | selectorNotFound selector => "No element matches selector: " ++ selector
  | invalidSelector selector reason => "Invalid selector '" ++ selector ++ "': " ++ reason
  | unsupportedXPath xpath => "Unsupported XPath expression: " ++ xpath
  | page detail => "Page error: " ++ detail
  | navigation detail => "Navigation failed: " ++ detail
  | unsupported operation => "Operation not supported by this page: " ++ operation
  | extraction detail => "Extraction error: " ++ detail
  | maxDepthExceeded depth => "Rule nesting exceeds maximum depth of " ++ toString depth
  | expression detail => "Expression error: " ++ detail
  | exporting detail => "Export error: " ++ detail
  | unsupportedFormat format => "Unsupported format: " ++ format
  | fileSystem path => "File system error: " ++ path
  | internal detail => "Internal error: " ++ detail
  | brokenXPath xpath => "XPath cut inside a character: " ++ xpath

def category : Fault → String
  | configuration _ | unreadableConfiguration _ => "configuration"
  | schemaParsing _ | schemaValidation _ | noSelector _ => "schema"
  | selectorNotFound _ | invalidSelector _ _ | unsupportedXPath _ => "selector"
  | page _ | navigation _ | unsupported _ => "page"
  | extraction _ | maxDepthExceeded _ => "extraction"
  | expression _ => "flow"
  | exporting _ | unsupportedFormat _ | fileSystem _ => "export"
  | internal _ | brokenXPath _ => "internal"

/-- Whether a run goes on after the fault. -/
def isRecoverable : Fault → Bool
  | selectorNotFound _ | invalidSelector _ _ | unsupportedXPath _ | page _ | navigation _
  | unsupported _ | extraction _ | expression _ => true
  | _ => false

end Fault

end PageHarvest
