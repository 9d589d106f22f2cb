import PageHarvest.Css.Reader
import PageHarvest.Html.Markup
import PageHarvest.Html.Parse
import PageHarvest.Page.Basic
import PageHarvest.Page.Control
import PageHarvest.Url.Reader
import PageHarvest.XPath.Reader

/-!
# Pages of a site at hand

A site is a set of documents by URL, of which one is loaded. Following a link loads the document
at its target, if the site has it; every load makes the handles of the loads before it stale. The
elements that queries find are numbered in the order in which they are first found.

- `Site.load?`, `Site.navigate`: the documents.
- `Site.query`: finding elements.
- `Site.page`: the site as a page.
-/

namespace PageHarvest

open Html

structure Site where
  /-- The sources by URL without fragment. -/
  sources : Entries String
  url : Url
  document : Document
  /-- The places of the elements found so far, by number. -/
  registered : List Place
  generation : Nat
  /-- The milliseconds waited for. -/
  waited : Nat
  /-- Whether an XPath was cut inside a character; then nothing counts that was answered since. -/
  isBroken : Bool

namespace Site

/-! ## Documents -/

/-- The text that stands for a URL among the sources. -/
def key (u : Url) : String := u.withoutFragment.text

def badUrl (s : String) (p : Url.Problem) : Fault :=
  .navigation ("Invalid URL '" ++ s ++ "': " ++ p.message)

def readUrl (s : String) : Except Fault Url := (Url.read s).mapError (badUrl s)

/-- Adds a document; it replaces one of the same URL. -/
def addSource (sources : Entries String) (page : String × String) :
    Except Fault (Entries String) := do
  return sources.insert (key (← readUrl page.1)) page.2

def notRegistered (u : Url) : Fault := .navigation ("No document registered for " ++ u.text)

/-- A site that starts with the document of a URL. -/
def start (url : String) (pages : List (String × String)) : Except Fault Site := do
  let sources ← pages.foldlM addSource []
  let u ← readUrl url
  match sources.get? (key u) with
  | some source => return ⟨sources, u, Document.parse source, [], 0, 0, false⟩
  | none => throw (notRegistered u)

/-- Loads a document of the site. -/
def load? (s : Site) (u : Url) : Option Site :=
  (s.sources.get? (key u)).map fun source =>
    { s with
      url := u
      document := Document.parse source
      registered := []
      generation := (s.generation + 1) % Nat.pow 2 32 }

/-- Goes to a URL, which may be relative to the current one. -/
def navigate (target : String) : Act Site Unit := do
  let s ← get
  match s.url.join target with
  | .error p => throw (badUrl target p)
  | .ok u =>
    match s.load? u with
    | some loaded => set loaded
    | none => throw (notRegistered u)

/-- Adds a document to the site. -/
def addPage (url source : String) : Act Site Unit := do
  let s ← get
  let sources ← addSource s.sources (url, source)
  set { s with sources }

/-! ## Elements -/

/-- The handle of the element at a place, which is registered if it is new. -/
def register (s : Site) (p : Place) : Handle × Site :=
  match s.registered.idxOf? p with
  | some i => (⟨s.generation, i⟩, s)
  | none =>
    (⟨s.generation, s.registered.length⟩, { s with registered := s.registered ++ [p] })

def registerAll : List Place → StateM Site (List Handle)
  | [] => return []
  | p :: rest => do
    let h ← modifyGet fun s => s.register p
    return h :: (← registerAll rest)

/-- The place that a handle stands for. -/
def placeOf (s : Site) (h : Handle) : Except Fault Place :=
  if h.generation ≠ s.generation then
    .error (.page "Stale element handle: the page has navigated")
  else
    match s.registered[h.index]? with
    | some p => .ok p
    | none => .error (.page ("Unknown element handle " ++ toString h.toNat))

/-- The element that a handle stands for, with its place. -/
def element (s : Site) (h : Handle) : Except Fault (Place × Element) := do
  let p ← s.placeOf h
  match s.document.element? p with
  | some e => return (p, e)
  | none => throw (.page ("Unknown element handle " ++ toString h.toNat))

/-- The selector of a locator, and whether it is meant for the whole document in any scope. -/
def selectorText : Locator → Except Fault (String × Bool)
  | .css selector => .ok (selector, false)
  | .xpath path => do
    return (← XPath.toCss path, !Text.startsWith (Text.trimStart path) ".")

/-- The matches of a locator. -/
def findPlaces (s : Site) (scope : Option Handle) (l : Locator) : Except Fault (List Place) := do
  let (text, isForAll) ← selectorText l
  match Css.Selector.read? text with
  | none => throw (.invalidSelector l.text "")
  | some selector =>
    match scope with
    | none => return selector.select s.document
    | some h => do
      let p ← s.placeOf h
      return if isForAll then selector.select s.document else selector.selectBelow s.document p

/-- Finds the elements that a locator matches. -/
def query (scope : Option Handle) (l : Locator) : Act Site (List Handle) := do
  let s ← get
  match s.findPlaces scope l with
  | .ok places => registerAll places
  | .error (.brokenXPath path) =>
    set { s with isBroken := true }
    throw (.brokenXPath path)
  | .error f => throw f

/-- Reads the element that a handle stands for. -/
def read {α : Type} (f : Document → Place → Element → α) (h : Handle) : Act Site α := do
  let s ← get
  let (p, e) ← s.element h
  return f s.document p e

def metadata (d : Document) : Metadata where
  title := d.title?
  description := d.named? "description"
  keywords := d.named? "keywords"
  author := d.named? "author"
  ogTitle := d.property? "og:title"
  ogDescription := d.property? "og:description"
  ogImage := d.property? "og:image"
  ogUrl := d.property? "og:url"
  ogType := d.property? "og:type"
  canonical := d.canonical?

/-- Follows the link of an element; a link into the same document is none. -/
def click (h : Handle) : Act Site Unit := do
  let href := Text.trim ((← read (fun _ _ e => e.attribute? "href") h).getD "")
  if href = "" || Text.startsWith href "#" then
    throw (.navigation "Clicked element does not link to another document")
  else navigate href

/-- A site as a page. It takes no pictures, and waiting only counts the time. -/
def page : Page Site where
  url := return (← get).url.text
  queryAll := query
  text := read fun _ _ e => e.text
  innerHtml := read fun _ _ e => e.innerMarkup
  attributeOf h name := read (fun _ _ e => e.attribute? name) h
  inputValue := read Document.controlValue
  isChecked := read fun _ _ e => e.isOn
  tagName := read fun _ _ e => Text.asciiLower e.name
  metadata := return metadata (← get).document
  screenshot := throw (.unsupported "screenshot")
  click := click
  waitForIdle := return ()
  wait n := modify fun s => { s with waited := s.waited + n }

end Site

end PageHarvest
