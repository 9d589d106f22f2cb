import PageHarvest.Html.Adoption
import PageHarvest.Html.Foreign

/-!
# Tokens in the head and in the body

Each function takes one token and tells whether the token has to be read again in the mode that is
then set.
-/

namespace PageHarvest.Html.Build

/-- Nothing more to do with the token. -/
def done : Build Bool := return false

/-- The token is read again in another mode. -/
def again (m : Mode) : Build Bool := do
  setMode m
  return true

/-! ## Head -/

/-- The start tags that belong into the head wherever they stand. -/
def headTags : List String :=
  ["base", "basefont", "bgsound", "link", "meta", "noframes", "script", "style", "template",
    "title"]

def openTemplate (t : Tag) : Build Unit := do
  insert t
  pushMarker
  noFrameset
  modify fun b => { b with mode := .inTemplate, templateModes := .inTemplate :: b.templateModes }

/-- Closes the innermost template and what is open in it. -/
def closeTemplate : Build Unit := do
  popThroughNamed ["template"]
  clearToMarker
  modify fun b => { b with templateModes := b.templateModes.tail }
  resetMode

/-- The end tag of a template. -/
def endTemplate : Build Unit := do
  if ← anyOpen fun l => l.isHtml ["template"] then
    popWhile isImpliedInTemplate
    closeTemplate

/-- A start tag of `headTags`, or `noscript`. -/
def insertHeadTag (t : Tag) : Build Unit :=
  match t.name with
  | "title" => insertText t (.referring "title")
  | "noframes" | "style" | "noscript" => insertText t (.raw t.name)
  | "script" => insertText t .script
  | "template" => openTemplate t
  | _ => insertVoid t

def addToRoot (t : Tag) : Build Unit := do
  let b ← get
  if !(← anyOpen fun l => l.isHtml ["template"]) then
    match b.stack.getLast? with
    | some root =>
      modify fun b => { b with
        draft := b.draft.addAttributes root (plainAttributes t.attributes) }
    | none => pure ()

def leaveHead : Build Bool := do
  pop
  again .afterHead

def inHead (t : Token) : Build Bool := do
  match t with
  | .char c =>
    if Token.isBlank c then
      insertChar c
      done
    else leaveHead
  | .comment s =>
    insertComment s
    done
  | .doctype _ | .fault => done
  | .stop => leaveHead
  | .tag tag =>
    if tag.isEnd then
      match tag.name with
      | "head" =>
        pop
        setMode .afterHead
        done
      | "body" | "html" | "br" => leaveHead
      | "template" =>
        endTemplate
        done
      | _ => done
    else if tag.name = "html" then
      addToRoot tag
      done
    else if headTags.contains tag.name || tag.name == "noscript" then
      insertHeadTag tag
      done
    else if tag.name = "head" then done
    else leaveHead

/-! ## Body: start tags -/

def headings : List String := ["h1", "h2", "h3", "h4", "h5", "h6"]

/-- The blocks that close a paragraph and have no other rule. -/
def plainBlocks : List String :=
  ["address", "article", "aside", "blockquote", "center", "details", "dialog", "dir", "div", "dl",
    "fieldset", "figcaption", "figure", "footer", "header", "hgroup", "main", "menu", "nav", "ol",
    "p", "section", "summary", "ul"]

/-- The formatting elements but `a` and `nobr`. -/
def formattingNames : List String :=
  ["b", "big", "code", "em", "font", "i", "s", "small", "strike", "strong", "tt", "u"]

/-- The start tags that stand for nothing in a body. -/
def misplaced : List String :=
  ["caption", "col", "colgroup", "frame", "head", "tbody", "td", "tfoot", "th", "thead", "tr"]

def insertFormatting (t : Tag) : Build Unit := do
  reopenFormatting
  let i ← insertTag t
  pushFormatting i t

/-- Closes an open item in front of a new one: an element of the names, searched up to a special
element other than `address`, `div` and `p`. -/
def closeItem (names : List String) : Build Unit := do
  let b ← get
  let labelOf (i : Nat) : Label := (b.draft.label? i).getD emptyLabel
  let bounds (l : Label) : Bool := isSpecial l && !l.isHtml ["address", "div", "p"]
  match b.stack.find? fun i => (labelOf i).isHtml names || bounds (labelOf i) with
  | some i => if (labelOf i).isHtml names then closeNamed (labelOf i).name
  | none => pure ()

def startForm (t : Tag) : Build Unit := do
  let inTemplate ← anyOpen fun l => l.isHtml ["template"]
  if inTemplate || (← get).form.isNone then
    closeParagraph
    let i ← insertTag t
    if !inTemplate then modify fun b => { b with form := some i }

/-- A link in a link closes the outer one. -/
def startLink (t : Tag) : Build Unit := do
  match (sinceMarker (← get).formatting).find? fun e => e.2.name == "a" with
  | some (i, _) =>
    adopt "a"
    removeFormatting i
    removeOpen i
  | none => pure ()
  insertFormatting t

def isHiddenInput (t : Tag) : Bool :=
  t.name == "input" &&
    Text.asciiLower ((t.attributes.lookup "type").getD "") == "hidden"

def startTable (t : Tag) : Build Unit := do
  if !(← get).quirks then closeParagraph
  insert t
  noFrameset
  setMode .inTable

def isTableMode : Mode → Bool
  | .inTable | .inCaption | .inTableBody | .inRow | .inCell => true
  | _ => false

def startSelect (t : Tag) : Build Unit := do
  reopenFormatting
  insert t
  noFrameset
  setMode (if isTableMode (← get).mode then .inSelectInTable else .inSelect)

/-- A frameset replaces a body that has nothing in it yet. -/
def startFrameset (t : Tag) : Build Unit := do
  let b ← get
  match b.stack.reverse with
  | root :: body :: _ =>
    if b.framesetOk && ((b.draft.label? body).getD emptyLabel).isHtml ["body"] then
      modify fun b => { b with draft := b.draft.detach body, stack := [root] }
      insert t
      setMode .inFrameset
  | _ => pure ()

def startBody (t : Tag) : Build Unit := do
  let b ← get
  let inTemplate ← anyOpen fun l => l.isHtml ["template"]
  match b.stack.reverse with
  | _ :: body :: _ =>
    if !inTemplate && ((b.draft.label? body).getD emptyLabel).isHtml ["body"] then
      noFrameset
      modify fun b => { b with
        draft := b.draft.addAttributes body (plainAttributes t.attributes) }
  | _ => pure ()

/-- A start tag with a rule by its own name. -/
def startNamed (t : Tag) : Build Unit :=
  match t.name with
  | "html" => addToRoot t
  | "body" => startBody t
  | "frameset" => startFrameset t
  | "form" => startForm t
  | "li" => do
    noFrameset
    closeItem ["li"]
    closeParagraph
    insert t
  | "dd" | "dt" => do
    noFrameset
    closeItem ["dd", "dt"]
    closeParagraph
    insert t
  | "pre" | "listing" => do
    closeParagraph
    insert t
    skipNextLine
    noFrameset
  | "plaintext" => do
    closeParagraph
    insert t
    setReading .plain
  | "button" => do
    if ← inScope boundsScope ["button"] then
      closeImplied
      popThroughNamed ["button"]
    reopenFormatting
    insert t
    noFrameset
  | "a" => startLink t
  | "nobr" => do
    reopenFormatting
    if ← inScope boundsScope ["nobr"] then
      adopt "nobr"
      reopenFormatting
    let i ← insertTag t
    pushFormatting i t
  | "applet" | "marquee" | "object" => do
    reopenFormatting
    insert t
    pushMarker
    noFrameset
  | "table" => startTable t
  | "area" | "br" | "embed" | "img" | "keygen" | "wbr" | "input" => do
    reopenFormatting
    insertVoid t
    if !isHiddenInput t then noFrameset
  | "image" => do
    reopenFormatting
    insertVoid { t with name := "img" }
    noFrameset
  | "param" | "source" | "track" => insertVoid t
  | "hr" => do
    closeParagraph
    insertVoid t
    noFrameset
  | "textarea" => do
    insertText t (.referring "textarea")
    skipNextLine
    noFrameset
  | "xmp" => do
    closeParagraph
    reopenFormatting
    noFrameset
    insertText t (.raw "xmp")
  | "iframe" => do
    noFrameset
    insertText t (.raw "iframe")
  | "noembed" | "noscript" => insertText t (.raw t.name)
  | "select" => startSelect t
  | "optgroup" | "option" => do
    if ← currentIs ["option"] then pop
    reopenFormatting
    insert t
  | "rb" | "rtc" => do
    if ← inScope boundsScope ["ruby"] then closeImplied
    insert t
  | "rp" | "rt" => do
    if ← inScope boundsScope ["ruby"] then closeImpliedBut "rtc"
    insert t
  | "math" => insertForeign .mathml t
  | "svg" => insertForeign .svg t
  | _ => do
    reopenFormatting
    insert t

def startInBody (t : Tag) : Build Unit := do
  if headTags.contains t.name then insertHeadTag t
  else if plainBlocks.contains t.name then
    closeParagraph
    insert t
  else if headings.contains t.name then
    closeParagraph
    if ← currentIs headings then pop
    insert t
  else if formattingNames.contains t.name then insertFormatting t
  else if misplaced.contains t.name then return
  else startNamed t

/-! ## Body: end tags -/

/-- The end tags that close a block of their name. -/
def closingBlocks : List String :=
  ["address", "article", "aside", "blockquote", "button", "center", "details", "dialog", "dir",
    "div", "dl", "fieldset", "figcaption", "figure", "footer", "header", "hgroup", "listing",
    "main", "menu", "nav", "ol", "pre", "section", "summary", "ul"]

def endForm : Build Unit := do
  if ← anyOpen fun l => l.isHtml ["template"] then
    if ← inScope boundsScope ["form"] then
      closeImplied
      popThroughNamed ["form"]
  else
    let form := (← get).form
    modify fun b => { b with form := none }
    match form with
    | some i =>
      if ← elementInScope boundsScope i then
        closeImplied
        removeOpen i
    | none => pure ()

/-- An end tag with a rule by its own name. -/
def endNamed (name : String) : Build Unit :=
  match name with
  | "template" => endTemplate
  | "form" => endForm
  | "p" => do
    if !(← inScope boundsButtonScope ["p"]) then insertBare "p"
    closeNamed "p"
  | "li" => do
    if ← inScope boundsListScope ["li"] then closeNamed "li"
  | "dd" | "dt" => do
    if ← inScope boundsScope [name] then closeNamed name
  | "applet" | "marquee" | "object" => do
    if ← inScope boundsScope [name] then
      closeImplied
      popThroughNamed [name]
      clearToMarker
  | "br" => do
    reopenFormatting
    insertVoid (bareTag "br")
    noFrameset
  | _ => closeAny name

def endInBody (name : String) : Build Unit := do
  if closingBlocks.contains name then
    if ← inScope boundsScope [name] then
      closeImplied
      popThroughNamed [name]
  else if headings.contains name then
    if ← inScope boundsScope headings then
      closeImplied
      popThroughNamed headings
  else if formattingNames.contains name || name == "a" || name == "nobr" then adopt name
  else endNamed name

/-! ## Body -/

/-- The end of the text inside a template. -/
def stopInTemplate : Build Bool := do
  if ← anyOpen fun l => l.isHtml ["template"] then
    closeTemplate
    return true
  else done

def inBody (t : Token) : Build Bool := do
  match t with
  | .char c =>
    if c.toNat = 0 then done
    else
      reopenFormatting
      insertChar c
      if !Token.isBlank c then noFrameset
      done
  | .comment s =>
    insertComment s
    done
  | .doctype _ | .fault => done
  | .stop => if (← get).templateModes.isEmpty then done else stopInTemplate
  | .tag tag =>
    if !tag.isEnd then
      startInBody tag
      done
    else if tag.name = "body" || tag.name = "html" then
      if ← inScope boundsScope ["body"] then
        setMode .afterBody
        return tag.name == "html"
      else done
    else
      endInBody tag.name
      done

end PageHarvest.Html.Build
