import PageHarvest.Json.Access
import PageHarvest.Text.Blank

/-!
# Extraction rules

A rule names a field, says what kind of thing to read and where, and how to refine what was read.
A list rule has rules of its own for the fields of each item. A selector wins over an XPath, and a
locator of blanks alone is none.
-/

namespace PageHarvest

/-- What a rule reads. -/
inductive RuleKind
  | text
  | html
  | value
  | attribute
  | href
  | src
  | table
  | list
  | json
  | links
  | images
  | metadata
  | form
  | screenshot
  deriving DecidableEq, Repr

namespace RuleKind

def all : List RuleKind :=
  [text, html, value, .attribute, href, src, table, list, json, links, images, metadata, form,
    screenshot]

/-- The name in schemas. -/
def name : RuleKind → String
  | text => "text"
  | html => "html"
  | value => "value"
  | .attribute => "attribute"
  | href => "href"
  | src => "src"
  | table => "table"
  | list => "list"
  | json => "json"
  | links => "links"
  | images => "images"
  | metadata => "metadata"
  | form => "form"
  | screenshot => "screenshot"

def ofName? (s : String) : Option RuleKind := all.find? fun k => k.name == s

/-- The name in messages. -/
def title (k : RuleKind) : String := k.name.capitalize

/-- The kinds that need no locator: they read the page as a whole. -/
def isPageLevel : RuleKind → Bool
  | metadata | screenshot | links | images => true
  | _ => false

/-- The selector of a rule that has no locator. -/
def defaultSelector? : RuleKind → Option String
  | links => some "a[href]"
  | images => some "img"
  | _ => none

/-- The attribute that the kind itself names. -/
def impliedAttribute? : RuleKind → Option String
  | href => some "href"
  | src => some "src"
  | _ => none

end RuleKind

/-- What happens to a text after it was read. The last three leave it as it is. -/
inductive Transform
  | trim
  | lowercase
  | uppercase
  | number
  | date
  | json
  deriving DecidableEq, Repr

namespace Transform

def all : List Transform := [trim, lowercase, uppercase, number, date, json]

def name : Transform → String
  | trim => "trim"
  | lowercase => "lowercase"
  | uppercase => "uppercase"
  | number => "number"
  | date => "date"
  | json => "json"

def ofName? (s : String) : Option Transform := all.find? fun t => t.name == s

end Transform

/-- How elements are found. -/
inductive Locator
  | css (selector : String)
  | xpath (path : String)
  deriving DecidableEq, Repr

namespace Locator

def text : Locator → String
  | css s | xpath s => s

/-- The text in messages, where an XPath is marked as one. -/
def display : Locator → String
  | css s => s
  | xpath s => "xpath=" ++ s

end Locator

structure Rule where
  id : String
  name : String
  kind : RuleKind
  selector : Option String
  xpath : Option String
  attributeName : Option String
  regex : Option String
  transform : Option Transform
  multiple : Bool
  optional : Bool
  fallbackSelector : Option String
  children : List Rule

namespace Rule

/-- A rule of a kind, with nothing else set. -/
def ofKind (name : String) (kind : RuleKind) : Rule :=
  ⟨name, name, kind, none, none, none, none, none, false, false, none, []⟩

/-- The text without blanks at its ends, if anything is left. -/
def nonBlank? (s : Option String) : Option String := (s.map Text.trim).filter (· != "")

/-- The locator that counts. -/
def locator? (r : Rule) : Option Locator :=
  ((nonBlank? r.selector).map .css).orElse fun _ => (nonBlank? r.xpath).map .xpath

/-- The locator to try when reading by the first one failed. -/
def fallback? (r : Rule) : Option Locator := (nonBlank? r.fallbackSelector).map .css

mutual

/-- The written form. What is absent is left out. -/
def toJson : Rule → Json
  | ⟨id, name, kind, selector, xpath, attributeName, regex, transform, multiple, optional,
      fallbackSelector, children⟩ =>
    let text (field : String) (v : Option String) : Entries Json :=
      Json.field? field (v.map Json.str)
    .obj ([("id", .str id), ("name", .str name), ("type", .str kind.name)] ++
      text "selector" selector ++ text "xpath" xpath ++ text "attribute" attributeName ++
      text "regex" regex ++ text "transform" (transform.map Transform.name) ++
      [("multiple", .bool multiple), ("optional", .bool optional)] ++
      text "fallbackSelector" fallbackSelector ++ childrenToJson children)

/-- The field with the children, if there are any. -/
def childrenToJson : List Rule → Entries Json
  | [] => []
  | r :: rest => [("children", .arr (r.toJson :: listToJson rest))]

def listToJson : List Rule → List Json
  | [] => []
  | r :: rest => r.toJson :: listToJson rest

end

end Rule

end PageHarvest
