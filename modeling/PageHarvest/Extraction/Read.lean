import PageHarvest.Extraction.Settings
import PageHarvest.Json.Reader
import PageHarvest.Page.Basic
import PageHarvest.Text.Base64
import PageHarvest.Text.Case
import PageHarvest.Text.Search
import PageHarvest.Url.Reader

/-!
# Reading one element

What the kinds of rules read from an element: texts, attributes and links, tables as lists of
records, forms as records, and JSON in the text of an element.
-/

namespace PageHarvest

/-- What all readings on one page have in common. -/
structure Walker (σ : Type) where
  page : Page σ
  /-- The URL that relative links are resolved against. -/
  base : Option Url
  settings : ExtractionSettings

namespace Walker

variable {σ : Type}

/-! ## Links -/

/-- A link made absolute, if it can be. -/
def absolutize (w : Walker σ) (raw : String) : String :=
  let link := Text.trim raw
  if !w.settings.absolutizeUrls || link = "" then link
  else
    match w.base with
    | none => link
    | some base =>
      match base.join link with
      | .ok u => u.text
      | .error _ => link

def trimmedText (w : Walker σ) (h : Handle) : Act σ String := return Text.trim (← w.page.text h)

/-- The text and the target of a link. -/
def readLink (w : Walker σ) (h : Handle) : Act σ Json := do
  let text ← w.page.text h
  let href := (← w.page.attributeOf h "href").getD ""
  return .obj [("text", .str (Text.trim text)), ("href", .str (w.absolutize href))]

/-- The description and the source of an image. -/
def readImage (w : Walker σ) (h : Handle) : Act σ Json := do
  let alt := (← w.page.attributeOf h "alt").getD ""
  let src := (← w.page.attributeOf h "src").getD ""
  return .obj [("alt", .str alt), ("src", .str (w.absolutize src))]

/-! ## JSON -/

/-- The text from the first opening brace to the last closing one. -/
def betweenBraces? (cs : List Char) : Option (List Char) :=
  let fromOpen := cs.dropWhile (· != '\x7b')
  let upToClose := (fromOpen.reverse.dropWhile (· != '\x7d')).reverse
  if upToClose.isEmpty then none else some upToClose

/-- The value that a text is, or holds in braces; null if there is none. -/
def jsonIn (text : String) : Json :=
  match Json.read? (Text.trim text) with
  | some v => v
  | none => ((betweenBraces? text.toList).bind fun cs => Json.read? (String.ofList cs)).getD .null

/-! ## Tables -/

def cellTexts (w : Walker σ) (row : Handle) : Act σ (List String) := do
  (← w.page.queryAll (some row) (.css "th, td")).mapM w.trimmedText

/-- The name of a column without a header. -/
def columnName (i : Nat) : String := "col_" ++ toString i

/-- The names of the columns under a row of headers. -/
def columnNames (headers : List String) : List String :=
  headers.zipIdx.map fun h => if h.1 = "" then columnName h.2 else h.1

/-- A row as a record; of two cells with one name the later one counts. -/
def rowRecord (names : List String) (cells : List String) : Entries Json :=
  Entries.ofList (cells.zipIdx.map fun c => ((names[c.2]?).getD (columnName c.2), .str c.1))

/-- The rows of a table after the first one, which names the columns. -/
def readTable (w : Walker σ) (table : Handle) : Act σ Json := do
  match ← w.page.queryAll (some table) (.css "tr") with
  | [] => return .arr []
  | header :: rows => do
    let names := columnNames (← w.cellTexts header)
    return .arr (← rows.mapM fun row => return .obj (rowRecord names (← w.cellTexts row)))

/-! ## Forms -/

/-- The name of a control: its name, else its id. -/
def controlName? (w : Walker σ) (h : Handle) : Act σ (Option String) := do
  let name := (← w.page.attributeOf h "name").getD ""
  if name ≠ "" then return some name
  let id := (← w.page.attributeOf h "id").getD ""
  return if id ≠ "" then some id else none

/-- The kinds of controls that hold no value. -/
def isButton (kind : String) : Bool := ["submit", "button", "reset", "image"].contains kind

/-- Adds a control to the fields of a form. Of the radio buttons of a name one has to be on. -/
def addControl (w : Walker σ) (fields : Entries Json) (h : Handle) : Act σ (Entries Json) := do
  match ← w.controlName? h with
  | none => return fields
  | some name =>
    let kind := Text.asciiLower ((← w.page.attributeOf h "type").getD "")
    if isButton kind then return fields
    else if kind = "checkbox" then return fields.insert name (.bool (← w.page.isChecked h))
    else if kind = "radio" then
      let isOn ← w.page.isChecked h
      let wasOn := ((fields.get? name).bind Json.truth?).getD false
      return fields.insert name (.bool (wasOn || isOn))
    else return fields.insert name (.str (← w.page.inputValue h))

/-- The controls of a form as a record. -/
def readForm (w : Walker σ) (form : Handle) : Act σ Json := do
  let controls ← w.page.queryAll (some form) (.css "input, select, textarea")
  return .obj (← controls.foldlM w.addControl [])

/-! ## Rules -/

/-- The value of an attribute, null if there is none. -/
def readAttribute (w : Walker σ) (h : Handle) (name : String) : Act σ Json :=
  return Json.ofOption Json.str (← w.page.attributeOf h name)

/-- The target of a link in an attribute. -/
def readTarget (w : Walker σ) (h : Handle) (name : String) : Act σ Json :=
  return Json.ofOption (fun raw => .str (w.absolutize raw)) (← w.page.attributeOf h name)

/-- What a rule reads from one element. -/
def readElement (w : Walker σ) (r : Rule) (h : Handle) : Act σ Json :=
  match r.kind with
  | .text => return .str (← w.trimmedText h)
  | .html => return .str (← w.page.innerHtml h)
  | .value => return .str (← w.page.inputValue h)
  | .attribute =>
    match r.attributeName.filter (· != "") with
    | some name => w.readAttribute h name
    | none => throw (.extraction ("Rule '" ++ r.name ++ "' names no attribute"))
  | .href => w.readTarget h "href"
  | .src => w.readTarget h "src"
  | .json => return jsonIn (← w.page.text h)
  | .table => w.readTable h
  | .form => w.readForm h
  | .links => w.readLink h
  | .images => w.readImage h
  | .list | .metadata | .screenshot =>
    throw (.internal (r.kind.title ++ " is not an element strategy"))

end Walker

end PageHarvest
