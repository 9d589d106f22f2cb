import PageHarvest.Fault
import PageHarvest.Json.Access
import PageHarvest.Schema.Rule

/-!
# Pages

What a page can do, for any kind of page. An action runs in a state of the page, may fail, and
leaves a state behind whether it fails or not.
-/

namespace PageHarvest

/-- A reference to an element: the load of the document that it belongs to, and its number there. -/
structure Handle where
  generation : Nat
  index : Nat
  deriving DecidableEq, Repr

namespace Handle

/-- Both numbers in one: 32 bits for each. -/
def toNat (h : Handle) : Nat := h.generation * Nat.pow 2 32 + h.index

def ofNat (n : Nat) : Handle := ⟨n / Nat.pow 2 32 % Nat.pow 2 32, n % Nat.pow 2 32⟩

end Handle

/-- What the head of a document says about it. -/
structure Metadata where
  title : Option String
  description : Option String
  keywords : Option String
  author : Option String
  ogTitle : Option String
  ogDescription : Option String
  ogImage : Option String
  ogUrl : Option String
  ogType : Option String
  canonical : Option String

namespace Metadata

/-- All fields, null for what is absent. -/
def toJson (m : Metadata) : Json :=
  let text := Json.ofOption Json.str
  .obj [("title", text m.title), ("description", text m.description),
    ("keywords", text m.keywords), ("author", text m.author), ("ogTitle", text m.ogTitle),
    ("ogDescription", text m.ogDescription), ("ogImage", text m.ogImage),
    ("ogUrl", text m.ogUrl), ("ogType", text m.ogType), ("canonical", text m.canonical)]

end Metadata

/-- An action on a page in some state. -/
abbrev Act (σ α : Type) := ExceptT Fault (StateM σ) α

namespace Act

/-- Runs an action: its outcome and the state it leaves. -/
def runIn {σ α : Type} (a : Act σ α) (s : σ) : Except Fault α × σ := a s

end Act

/-- A page with states in `σ`. A query with a scope finds elements inside the element of the scope
only; without one it searches the whole document. -/
structure Page (σ : Type) where
  url : Act σ String
  queryAll : Option Handle → Locator → Act σ (List Handle)
  /-- The text of an element and of all that it holds. -/
  text : Handle → Act σ String
  innerHtml : Handle → Act σ String
  attributeOf : Handle → String → Act σ (Option String)
  /-- The value of a form control. -/
  inputValue : Handle → Act σ String
  isChecked : Handle → Act σ Bool
  /-- The name of an element in lower case. -/
  tagName : Handle → Act σ String
  metadata : Act σ Metadata
  /-- The bytes of a picture of the page. -/
  screenshot : Act σ (List UInt8)
  click : Handle → Act σ Unit
  /-- Waits until the page has loaded what it needs. -/
  waitForIdle : Act σ Unit
  /-- Waits for a time in milliseconds. -/
  wait : Nat → Act σ Unit

namespace Page

variable {σ : Type}

/-- The first match of a query. -/
def query (p : Page σ) (scope : Option Handle) (l : Locator) : Act σ (Option Handle) :=
  return (← p.queryAll scope l).head?

end Page

end PageHarvest
